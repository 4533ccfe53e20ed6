import Logbook.Proofs.Formula.UsedCalculators
import Logbook.Proofs.Outcome
import Logbook.Proofs.Series.FirstOccurrences

/-!
# What an evaluation asks for

The names of a formula are listed by one recursion over its tree and looked up by another one. Both
come to the same names in the same order.

* `Formula.mentions` — the names of a formula as often as they occur; `names_eq_firstOccurrences`
  says that the names are the first occurrences among them.
* `Formula.requests` — the names that an evaluation hands to its lookup, in order, which
  `requests_prefix_unknowns` and `requests_of_ok` find among the mentions.
* `Formula.Agree` — two lookups, each with a state of its own, that answer some names alike;
  `runFrom_agree` evaluates a formula with both.
* `Formula.names_eq_requests` — the names are what evaluations ask for and all that they depend on.
-/

namespace Logbook

namespace Formula

variable {σ τ : Type} {f : Formula}

/-! ## Mentions -/

/-- The names in a formula, from left to right and as often as they occur. -/
def mentions : Formula → List String
  | constant _ => []
  | named name => [name]
  | call _ operand => operand.mentions
  | factorial operand => operand.mentions
  | binary _ left right => left.mentions ++ right.mentions

theorem mem_mentions_iff {name : String} : name ∈ f.mentions ↔ named name ∈ f.parts := by
  induction f with
  | constant value => simp [mentions, parts]
  | named name => simp [mentions, parts]
  | call function operand ih => simp [mentions, parts, ih]
  | factorial operand ih => simp [mentions, parts, ih]
  | binary operator left right ihl ihr => simp [mentions, parts, ihl, ihr]

theorem namesAfter_eq_foldl (seen : List String) (f : Formula) :
    f.namesAfter seen =
      f.mentions.foldl (fun seen name => if seen.contains name then seen else seen ++ [name])
        seen := by
  induction f generalizing seen with
  | constant value => rfl
  | named name => rfl
  | call function operand ih => exact ih seen
  | factorial operand ih => exact ih seen
  | binary operator left right ihl ihr =>
    rw [namesAfter, mentions, List.foldl_append, ← ihl, ← ihr]

theorem names_eq_firstOccurrences (f : Formula) : f.names = firstOccurrences f.mentions :=
  namesAfter_eq_foldl [] f

/-- The names that have to be looked up, from left to right and as often as they occur. -/
def unknowns (f : Formula) : List String :=
  f.mentions.filter fun name => (NamedConstant.ofName? name).isNone

/-- The names that a formula reads, apart from those of the constants with a fixed value. -/
def openNames (f : Formula) : List String :=
  f.names.filter fun name => name ≠ "PI" ∧ name ≠ "E"

theorem unknowns_named_of_some {name : String} {k : NamedConstant}
    (h : NamedConstant.ofName? name = some k) : (named name).unknowns = [] := by
  simp [unknowns, mentions, h]

theorem unknowns_named_of_none {name : String} (h : NamedConstant.ofName? name = none) :
    (named name).unknowns = [name] := by
  simp [unknowns, mentions, h]

theorem unknowns_binary (op : BinaryOperator) (l r : Formula) :
    (binary op l r).unknowns = l.unknowns ++ r.unknowns :=
  List.filter_append _ _

/-- Without random numbers, what has to be looked up are the names apart from the constants. -/
theorem firstOccurrences_unknowns (hf : Determined f) :
    firstOccurrences f.unknowns = f.openNames := by
  have hsame : ∀ name ∈ f.mentions,
      (NamedConstant.ofName? name).isNone = decide (name ≠ "PI" ∧ name ≠ "E") := by
    intro name hname
    rcases NamedConstant.ofName?_cases name with ⟨rfl, h⟩ | ⟨rfl, h⟩ | ⟨rfl, -⟩ | ⟨hpi, he, h⟩
    · simp [h]
    · simp [h]
    · exact absurd (mem_mentions_iff.1 hname) hf
    · simp [h, hpi, he]
  rw [openNames, names_eq_firstOccurrences, ← firstOccurrences_filter, unknowns,
    List.filter_congr hsame]

/-! ## Two lookups -/

/-- Where their states correspond, two lookups answer each of the names alike, and the states
correspond afterwards. -/
def Agree (corresponds : σ → τ → Prop) (names : List String) (lookup : Lookup (StateM σ))
    (lookup' : Lookup (StateM τ)) : Prop :=
  ∀ name ∈ names, ∀ s t, corresponds s t →
    (lookup name s).1 = (lookup' name t).1 ∧ corresponds (lookup name s).2 (lookup' name t).2

section Agree

variable {corresponds : σ → τ → Prop} {names names' : List String} {lookup : Lookup (StateM σ)}
  {lookup' : Lookup (StateM τ)}

theorem Agree.mono (h : Agree corresponds names lookup lookup') (hsub : names' ⊆ names) :
    Agree corresponds names' lookup lookup' :=
  fun name hname => h name (hsub hname)

/-- Two evaluations with the same calculator end alike if their lookups agree on the unknowns. -/
theorem runFrom_agree (h : Agree corresponds f.unknowns lookup lookup') (c : Calculator) {s : σ}
    {t : τ} (hst : corresponds s t) :
    (runFrom lookup f c s).result = (runFrom lookup' f c t).result ∧
      (runFrom lookup f c s).calculator = (runFrom lookup' f c t).calculator ∧
      corresponds (runFrom lookup f c s).state (runFrom lookup' f c t).state := by
  induction f generalizing c s t with
  | constant value => exact ⟨rfl, rfl, hst⟩
  | named name =>
    cases hk : NamedConstant.ofName? name with
    | some k =>
      rw [runFrom_named_constant hk, runFrom_named_constant hk]
      cases k.value? <;> exact ⟨rfl, rfl, hst⟩
    | none =>
      have hname : name ∈ (named name).unknowns := by simp [unknowns_named_of_none hk]
      have hanswer := h name hname s t hst
      rw [runFrom_named hk, runFrom_named hk]
      generalize lookup name s = e at hanswer ⊢
      generalize lookup' name t = e' at hanswer ⊢
      obtain ⟨answer, s'⟩ := e
      obtain ⟨answer', t'⟩ := e'
      obtain ⟨rfl, hst'⟩ : answer = answer' ∧ corresponds s' t' := hanswer
      rcases answer with _ | _ | xs <;> exact ⟨rfl, rfl, hst'⟩
  | call g x ih =>
    obtain ⟨hresult, hrest⟩ := ih h c hst
    rw [runFrom_call, runFrom_call]
    cases NamedFunction.ofName? g with
    | none => exact ⟨rfl, rfl, hst⟩
    | some k => exact ⟨congrArg (Except.map (List.map k.apply)) hresult, hrest⟩
  | factorial x ih =>
    have hx := ih h c hst
    rw [runFrom_factorial, runFrom_factorial]
    generalize runFrom lookup x c s = e at hx ⊢
    generalize runFrom lookup' x c t = e' at hx ⊢
    obtain ⟨result, c', s'⟩ := e
    obtain ⟨result', d', t'⟩ := e'
    obtain ⟨rfl, rfl, hst'⟩ : result = result' ∧ c' = d' ∧ corresponds s' t' := hx
    cases result <;> exact ⟨rfl, rfl, hst'⟩
  | binary op l r ihl ihr =>
    rw [unknowns_binary] at h
    have hl := ihl (h.mono (List.subset_append_left _ _)) c hst
    rw [runFrom_binary, runFrom_binary]
    generalize runFrom lookup l c s = e at hl ⊢
    generalize runFrom lookup' l c t = e' at hl ⊢
    obtain ⟨result, c', s'⟩ := e
    obtain ⟨result', d', t'⟩ := e'
    obtain ⟨rfl, rfl, hst'⟩ : result = result' ∧ c' = d' ∧ corresponds s' t' := hl
    cases result with
    | error err => exact ⟨rfl, rfl, hst'⟩
    | ok xs =>
      obtain ⟨hresult, hrest⟩ := ihr (h.mono (List.subset_append_right _ _)) c' hst'
      exact ⟨congrArg (Except.map (List.zipWith op.apply xs)) hresult, hrest⟩

end Agree

/-! ## Requests -/

/-- The lookup with a list of the names that it has been asked for so far. -/
def noted (lookup : Lookup (StateM σ)) : Lookup (StateM (σ × List String)) :=
  fun name p => ((lookup name p.1).1, ((lookup name p.1).2, p.2 ++ [name]))

/-- The names that an evaluation hands to its lookup, in this order. -/
def requests (lookup : Lookup (StateM σ)) (f : Formula) (c : Calculator) (s : σ) : List String :=
  (runFrom (noted lookup) f c (s, [])).state.2

variable (lookup : Lookup (StateM σ)) (c : Calculator)

/-- An evaluation does not notice that its lookup keeps a list. -/
theorem result_noted (f : Formula) (s : σ) (asked : List String) :
    (runFrom (noted lookup) f c (s, asked)).result = (runFrom lookup f c s).result := by
  have hagree : Agree (fun (p : σ × List String) s => p.1 = s) f.unknowns (noted lookup)
      lookup := by
    rintro name - p s rfl
    exact ⟨rfl, rfl⟩
  exact (runFrom_agree hagree c rfl).1

/-- The list grows by unknowns of the formula, from the first one on, and by all of them if the
formula has values. -/
def Grows (f : Formula) (asked : List String) (e : Ending (σ × List String) (List Float)) : Prop :=
  ∃ more, e.state.2 = asked ++ more ∧ more <+: f.unknowns ∧
    ∀ xs, e.result = .ok xs → more = f.unknowns

theorem grows (f : Formula) (p : σ × List String) :
    Grows f p.2 (runFrom (noted lookup) f c p) := by
  induction f generalizing c p with
  | constant value => exact ⟨[], (List.append_nil _).symm, List.nil_prefix, fun _ _ => rfl⟩
  | named name =>
    cases hk : NamedConstant.ofName? name with
    | some k =>
      rw [runFrom_named_constant hk, Grows, unknowns_named_of_some hk]
      cases k.value? <;>
        exact ⟨[], (List.append_nil _).symm, List.nil_prefix, fun _ _ => rfl⟩
    | none =>
      rw [runFrom_named hk, Grows, unknowns_named_of_none hk, noted]
      rcases (lookup name p.1).1 with _ | _ | xs <;>
        exact ⟨[name], rfl, List.prefix_rfl, fun _ _ => rfl⟩
  | call g x ih =>
    rw [runFrom_call]
    cases NamedFunction.ofName? g with
    | none => exact ⟨[], (List.append_nil _).symm, List.nil_prefix, fun _ h => nomatch h⟩
    | some k =>
      obtain ⟨more, hstate, hfront, hall⟩ := ih c p
      refine ⟨more, hstate, hfront, fun ys hys => ?_⟩
      obtain ⟨xs, hxs, -⟩ := map_eq_ok_iff.1 hys
      exact hall xs hxs
  | factorial x ih =>
    have hx := ih c p
    rw [runFrom_factorial]
    generalize runFrom (noted lookup) x c p = e at hx ⊢
    obtain ⟨more, hstate, hfront, hall⟩ := hx
    rcases e with ⟨err | xs, c', p'⟩
    · exact ⟨more, hstate, hfront, fun _ h => nomatch h⟩
    · exact ⟨more, hstate, hfront, fun _ _ => hall xs rfl⟩
  | binary op l r ihl ihr =>
    have hl := ihl c p
    rw [runFrom_binary]
    generalize runFrom (noted lookup) l c p = e at hl ⊢
    obtain ⟨more, hstate, hfront, hall⟩ := hl
    rcases e with ⟨err | xs, c', p'⟩
    · refine ⟨more, hstate, ?_, fun _ h => nomatch h⟩
      rw [unknowns_binary]
      exact hfront.trans (List.prefix_append _ _)
    · -- All unknowns of the left operand were asked for, and then those of the right one are.
      obtain ⟨more', hstate', hfront', hall'⟩ := ihr c' p'
      obtain rfl := hall xs rfl
      refine ⟨l.unknowns ++ more', ?_, ?_, fun zs hzs => ?_⟩
      · rw [hstate', hstate, List.append_assoc]
      · rw [unknowns_binary]
        exact (List.prefix_append_right_inj _).2 hfront'
      · obtain ⟨ys, hys, -⟩ := map_eq_ok_iff.1 hzs
        rw [unknowns_binary, hall' ys hys]

variable {lookup c}

/-- An evaluation asks for unknowns of the formula, from the first one on. -/
theorem requests_prefix_unknowns (s : σ) : requests lookup f c s <+: f.unknowns := by
  obtain ⟨more, hstate, hfront, -⟩ := grows lookup c f (s, [])
  rw [requests, hstate]
  exact hfront

/-- An evaluation that comes to values has asked for all unknowns. -/
theorem requests_of_ok {s : σ} {xs : List Float} (h : (runFrom lookup f c s).result = .ok xs) :
    requests lookup f c s = f.unknowns := by
  obtain ⟨more, hstate, -, hall⟩ := grows lookup c f (s, [])
  rw [requests, hstate]
  exact hall xs ((result_noted lookup c f s []).trans h)

theorem mem_openNames_iff (hf : Determined f) {name : String} :
    name ∈ f.openNames ↔ name ∈ f.unknowns := by
  rw [← firstOccurrences_unknowns hf, mem_firstOccurrences]

/-- **The names of a formula are what its evaluation asks for.** Let a formula draw no random
numbers. No name is listed twice. An evaluation asks its lookup for listed names only, `PI` and `E`
never, and if it comes to values it has asked for all others, for the first time in the order of the
list. Two lookups that agree on these names lead to the same values or to the same error, whatever
their calculators have been used for. -/
theorem names_eq_requests (hf : Determined f) :
    f.names.Nodup ∧
    (∀ {σ : Type} (lookup : Lookup (StateM σ)) (c : Calculator) (s : σ),
      (∀ name ∈ requests lookup f c s, name ∈ f.openNames) ∧
      ∀ xs, (runFrom lookup f c s).result = .ok xs →
        firstOccurrences (requests lookup f c s) = f.openNames) ∧
    (∀ {σ τ : Type} (corresponds : σ → τ → Prop) (lookup : Lookup (StateM σ))
      (lookup' : Lookup (StateM τ)), Agree corresponds f.openNames lookup lookup' →
      ∀ {rows : Nat} {c d : Calculator}, c.Used rows → d.Used rows → ∀ s t, corresponds s t →
        (runFrom lookup f c s).result = (runFrom lookup' f d t).result) := by
  refine ⟨?_, fun lookup c s => ⟨fun name hname => ?_, fun xs hxs => ?_⟩, ?_⟩
  · rw [names_eq_firstOccurrences]
    exact nodup_firstOccurrences f.mentions
  · exact (mem_openNames_iff hf).2 ((requests_prefix_unknowns s).subset hname)
  · rw [requests_of_ok hxs, firstOccurrences_unknowns hf]
  · intro σ τ corresponds lookup lookup' hagree rows c d hc hd s t hst
    have hunknowns : Agree corresponds f.unknowns lookup lookup' :=
      hagree.mono fun name => (mem_openNames_iff hf).2
    have hrows : c.rows = d.rows := hc.rows_eq.trans hd.rows_eq.symm
    calc (runFrom lookup f c s).result
      _ = (runFrom lookup f d s).result := (runFrom_congr hf hc.sound hd.sound hrows s).1
      _ = (runFrom lookup' f d t).result := (runFrom_agree hunknowns d hst).1

/-- The sum asks for `b` twice, before and after `a`. The second lookup has other answers for other
names, and its calculator has not been used. -/
theorem names_eq_requests_repeated :
    let f : Formula := binary .subtraction
      (binary .sum (named "b") (binary .product (named "a") (named "b"))) (named "PI")
    let lookup : Lookup (StateM Nat) := fun name asked =>
      (.ok (if name = "a" then some [2] else if name = "b" then some [3] else none), asked + 1)
    let lookup' : Lookup (StateM Unit) := fun name _ =>
      (.ok (if name = "a" then some [2] else some [3]), ())
    let c := (runFrom lookup (factorial (named "b")) (.initial 1 ⟨0⟩) 0).calculator
    let d := Calculator.initial 1 ⟨7⟩
    Determined f ∧ f.names = ["b", "a", "PI"] ∧ f.openNames = ["b", "a"] ∧ f.names.Nodup ∧
      requests lookup f c 1 = ["b", "a", "b"] ∧ (runFrom lookup f c 1).result.toBool = true ∧
      firstOccurrences (requests lookup f c 1) = f.openNames ∧
      Agree (fun _ _ => True) f.openNames lookup lookup' ∧
      (runFrom lookup f c 1).result = (runFrom lookup' f d ()).result := by
  intro f lookup lookup' c d
  have hf : Determined f := by simp [Determined, parts, f]
  have hopen : f.openNames = ["b", "a"] := by decide +kernel
  have hagree : Agree (fun _ _ => True) f.openNames lookup lookup' := by
    rw [hopen]
    intro name hname _ _ _
    rcases List.mem_pair.1 hname with rfl | rfl <;> exact ⟨rfl, trivial⟩
  obtain ⟨hnodup, hrequests, hlookups⟩ := names_eq_requests hf
  have hc : Calculator.Used 1 c := .evaluated lookup _ 0 (.fresh ⟨0⟩)
  refine ⟨hf, by decide +kernel, hopen, hnodup, rfl, rfl, (hrequests lookup c 1).2 _ rfl, hagree,
    ?_⟩
  exact hlookups _ lookup lookup' hagree hc (.fresh ⟨7⟩) 1 () trivial

end Formula

end Logbook
