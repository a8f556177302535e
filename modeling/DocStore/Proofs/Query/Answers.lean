import DocStore.Proofs.Fallible
import DocStore.Proofs.Filter.Meaning

/-!
# Queries that answer

A query answers a question on a document when its outcome is the truth of the question
(`Query.Decides`), or it stalls at a pattern that is too large. The ways of joining queries join
their questions, and the operators of a query are the relations that filters speak of. A search with a
query that can be evaluated on all documents is the library's filter (`Query.select_eq_filter`).
-/

namespace DocStore

namespace Operator

theorem isOperatorKey_queryKey (op : Operator) : Text.isOperatorKey op.queryKey = true := by
  cases op <;> simp [Text.isOperatorKey, queryKey]

theorem queryKey_ne_options (op : Operator) : op.queryKey ≠ "$options" := by
  cases op <;> simp [queryKey]

theorem queryKey_ne_not (op : Operator) : op.queryKey ≠ "$not" := by
  cases op <;> simp [queryKey]

end Operator

namespace Query

/-! ## Answers -/

/-- A computation answers whether something is true, unless it stalls at a pattern that is too
large. -/
def Decides (x : Except Fault Bool) (P Stalls : Prop) : Prop :=
  x = .error (.badPattern .tooLarge) ∧ Stalls ∨ x = .ok true ∧ P ∧ ¬ Stalls ∨
    x = .ok false ∧ ¬ P ∧ ¬ Stalls

section

variable {x y : Except Fault Bool} {P Q U V : Prop}

theorem decides_ok (b : Bool) : Decides (.ok b) (b = true) False := by
  cases b <;> simp [Decides]

theorem Decides.congr (h : Decides x P U) (e : P ↔ Q) (f : U ↔ V) : Decides x Q V := by
  rwa [← propext e, ← propext f]

theorem Decides.not (h : Decides x P U) : Decides (do pure !(← x)) (¬ P) U := by
  rcases h with ⟨rfl, u⟩ | ⟨rfl, p, u⟩ | ⟨rfl, p, u⟩
  · exact .inl ⟨rfl, u⟩
  · exact .inr (.inr ⟨rfl, fun n => n p, u⟩)
  · exact .inr (.inl ⟨rfl, p, u⟩)

/-- The second condition is only looked at if the first one holds, and only then can fail. -/
theorem Decides.and (h : Decides x P U) (k : Decides y Q V) :
    Decides (do let ok ← x; if ok then y else pure false) (P ∧ Q) (U ∨ P ∧ V) := by
  rcases h with ⟨rfl, u⟩ | ⟨rfl, p, u⟩ | ⟨rfl, p, u⟩
  · exact .inl ⟨rfl, .inl u⟩
  · exact k.congr (by simp [p]) (by simp [p, u])
  · exact .inr (.inr ⟨rfl, by simp [p], by simp [p, u]⟩)

/-- The second condition is only looked at if the first one does not hold. -/
theorem Decides.or (h : Decides x P U) (k : Decides y Q V) :
    Decides (do let ok ← x; if ok then pure true else y) (P ∨ Q) (U ∨ ¬ P ∧ V) := by
  rcases h with ⟨rfl, u⟩ | ⟨rfl, p, u⟩ | ⟨rfl, p, u⟩
  · exact .inl ⟨rfl, .inl u⟩
  · exact .inr (.inl ⟨rfl, .inl p, by simp [p, u]⟩)
  · exact k.congr (by simp [p]) (by simp [p, u])

theorem Decides.eq_error (h : Decides x P U) (u : U) : x = .error (.badPattern .tooLarge) := by
  rcases h with ⟨e, -⟩ | ⟨-, -, no⟩ | ⟨-, -, no⟩
  · exact e
  · exact absurd u no
  · exact absurd u no

/-- Where nothing fails there is an answer. -/
theorem Decides.exists_ok (h : Decides x P U) (u : ¬ U) : ∃ b, x = .ok b ∧ (b = true ↔ P) := by
  rcases h with ⟨-, v⟩ | ⟨rfl, p, -⟩ | ⟨rfl, p, -⟩
  · exact absurd v u
  · exact ⟨true, rfl, by simp [p]⟩
  · exact ⟨false, rfl, by simp [p]⟩

end

/-! ## Operators -/

/-- The candidates of a comparison are the value and, of an array, its items. -/
theorem mem_candidates {actual : Option Json} {v : Json} :
    v ∈ candidates actual ↔ Operator.Candidate actual v := by
  unfold candidates Operator.Candidate
  split <;> simp

theorem equalTo_iff {actual : Option Json} {w : Json} :
    equalTo actual w = true ↔ Operator.Equals actual w := by
  unfold equalTo Operator.Equals
  split
  · cases w <;> simp [Json.isNull]
  · simp
  · rename_i v other
    refine ⟨.inl, ?_⟩
    rintro (h | ⟨xs, rfl, -⟩)
    · exact h
    · exact absurd rfl (other xs)

/-- A bound is compared with the values of its own kind, by the orders that the operator accepts. -/
theorem comparesTo_iff {actual : Option Json} {bound : Json} {accept : Ordering → Bool}
    {orders : List Ordering} (h : ∀ o, accept o = true ↔ o ∈ orders) :
    comparesTo actual bound accept = true ↔ Operator.Compares actual bound orders := by
  simp only [comparesTo, List.any_eq_true, mem_candidates, Operator.Compares, Json.sameBracket,
    Bool.and_eq_true, beq_iff_eq, h]

/-- Without options a pattern is read as it is when a filter is compiled. -/
theorem ofString_patternFlags_empty (pattern : String) :
    Regex.ofString pattern (patternFlags "") = Regex.ofString pattern := rfl

theorem satisfies_regex (actual : Option Json) {pattern : String} {r : Regex}
    (h : Regex.ofString pattern = .ok r) :
    satisfies actual "" "$regex" (.str pattern) =
      .ok ((candidates actual).any (matchesPattern r)) := by
  simp only [satisfies, ofString_patternFlags_empty, h]

/-- A pattern that cannot be compiled makes its condition fail. -/
theorem satisfies_badPattern (actual : Option Json) {pattern : String} {fault : Regex.Fault}
    (h : Regex.ofString pattern = .error fault) :
    satisfies actual "" "$regex" (.str pattern) = .error (.badPattern fault) := by
  simp only [satisfies, ofString_patternFlags_empty, h]

theorem any_matchesPattern {actual : Option Json} {r : Regex} :
    (candidates actual).any (matchesPattern r) = true ↔
      ∃ s, Operator.Candidate actual (.str s) ∧ r.isMatch s = true := by
  rw [List.any_eq_true]
  constructor
  · rintro ⟨v, hv, hm⟩
    cases v with
    | str s => exact ⟨s, mem_candidates.1 hv, hm⟩
    | _ => simp [matchesPattern] at hm
  · rintro ⟨s, hs, hm⟩
    exact ⟨.str s, mem_candidates.2 hs, hm⟩

/-! ## Conditions -/

theorem satisfiesOperator_of_ne_not {actual : Option Json} {options key : String} (w : Json)
    (h : key ≠ "$not") :
    satisfiesOperator actual options key w = satisfies actual options key w := by
  cases w <;> simp [satisfiesOperator, h]

/-- A condition at a key that names a field is one on the value of that field. -/
theorem selectsOne_of_field {doc : Json} {field : String} (condition : Json)
    (h : Text.isOperatorKey field = false) :
    selectsOne doc field condition = satisfiesCondition (doc.getPath? field) condition := by
  have other : field ≠ "$and" ∧ field ≠ "$or" ∧ field ≠ "$nor" := by
    refine ⟨?_, ?_, ?_⟩ <;> rintro rfl <;> simp [Text.isOperatorKey] at h
  unfold selectsOne
  split
  · split <;> simp_all
  · simp [other, h]

/-- A condition that does not consist of operators is a value to equal. -/
theorem satisfiesCondition_bare {actual : Option Json} {v : Json}
    (plain : ∀ fs, v = .obj fs → isOperatorDocument fs = false) :
    satisfiesCondition actual v = .ok (equalTo actual v) := by
  unfold satisfiesCondition
  split
  · rw [if_neg (by simp [plain _ rfl])]
  · rfl

/-! ## Documents of operators -/

/-- Among the keys of operators there are no options of a pattern. -/
theorem optionsOf_eq_empty {ops : Fields} (h : ∀ e ∈ ops, ∃ op : Operator, e.1 = op.queryKey) :
    optionsOf ops = "" := by
  have missing : Fields.get? ops "$options" = none := by
    rw [Fields.get?, List.lookup_eq_none_iff]
    intro e he
    obtain ⟨op, same⟩ := h e he
    rw [same]
    simpa using op.queryKey_ne_options.symm
  rw [optionsOf, missing]

/-- Conditions that are compiled from operators are taken for operators. -/
theorem isOperatorDocument_of_keys {ops : Fields} (filled : ops ≠ [])
    (h : ∀ e ∈ ops, ∃ op : Operator, e.1 = op.queryKey) : isOperatorDocument ops = true := by
  simp only [isOperatorDocument, Bool.and_eq_true, Bool.not_eq_true', List.isEmpty_eq_false_iff,
    List.all_eq_true]
  refine ⟨filled, fun e he => ?_⟩
  obtain ⟨op, same⟩ := h e he
  rw [same]
  exact op.isOperatorKey_queryKey

theorem satisfiesAll_single {actual : Option Json} (op : Operator) (w : Json) :
    satisfiesAll actual "" [(op.queryKey, w)] = satisfies actual "" op.queryKey w := by
  rw [satisfiesAll, if_neg (by simpa using op.queryKey_ne_options),
    satisfiesOperator_of_ne_not w op.queryKey_ne_not]
  cases satisfies actual "" op.queryKey w with
  | error e => rfl
  | ok b => cases b <;> rfl

/-- A document of one operator asks for that operator. -/
theorem satisfiesCondition_single {actual : Option Json} (op : Operator) (w : Json) :
    satisfiesCondition actual (.single op.queryKey w) = satisfies actual "" op.queryKey w := by
  have operator : isOperatorDocument [(op.queryKey, w)] = true :=
    isOperatorDocument_of_keys (by simp) (by simp)
  have options : optionsOf [(op.queryKey, w)] = "" := optionsOf_eq_empty (by simp)
  rw [Json.single, satisfiesCondition, if_pos operator, options, satisfiesAll_single]

/-- A negated operator is the negation of the operator. -/
theorem Decides.negated {actual : Option Json} {op : Operator} {w : Json} {P U : Prop}
    (h : Decides (satisfies actual "" op.queryKey w) P U) :
    Decides (satisfiesCondition actual (.single "$not" (.single op.queryKey w))) (¬ P) U := by
  have outer : isOperatorDocument [("$not", Json.obj [(op.queryKey, w)])] = true := by
    simp [isOperatorDocument, Text.isOperatorKey]
  have inner : isOperatorDocument [(op.queryKey, w)] = true :=
    isOperatorDocument_of_keys (by simp) (by simp)
  have options : optionsOf [(op.queryKey, w)] = "" := optionsOf_eq_empty (by simp)
  have asked : Decides (satisfiesAll actual "" [(op.queryKey, w)]) P U := by
    rwa [satisfiesAll_single]
  have negation : Decides
      (satisfiesOperator actual "" "$not" (.obj [(op.queryKey, w)])) (¬ P) U := by
    rw [satisfiesOperator, inner, options]
    exact asked.not
  rw [Json.single, Json.single, satisfiesCondition, if_pos outer, satisfiesAll,
    if_neg (by simp)]
  exact (negation.and (decides_ok true)).congr (by simp) (by simp)

/-! ## Conjunctions and disjunctions -/

/-- A conjunction of queries asks for all of them, in order. -/
theorem decides_everyClause {α : Type} {doc : Json} {P U : α → Prop} {xs : List α}
    {qs : List Json} (h : List.Forall₂ (fun x q => Decides (selects doc q) (P x) (U x)) xs qs) :
    Decides (everyClause doc qs) (∀ x ∈ xs, P x) (Reaches P U xs) := by
  induction h with
  | nil => exact .inr (.inl ⟨rfl, by simp, reaches_nil⟩)
  | cons here _ ih =>
    rw [everyClause]
    exact (here.and ih).congr (by simp only [List.forall_mem_cons]) reaches_cons.symm

/-- A disjunction of queries asks for one of them, in order. -/
theorem decides_someClause {α : Type} {doc : Json} {P U : α → Prop} {xs : List α}
    {qs : List Json} (h : List.Forall₂ (fun x q => Decides (selects doc q) (P x) (U x)) xs qs) :
    Decides (someClause doc qs) (∃ x ∈ xs, P x) (Reaches (fun x => ¬ P x) U xs) := by
  induction h with
  | nil => exact .inr (.inr ⟨rfl, by simp, reaches_nil⟩)
  | cons here _ ih =>
    rw [someClause]
    exact (here.or ih).congr (by simp only [List.exists_mem_cons_iff])
      (by simp only [reaches_cons])

theorem selects_single (doc : Json) (key : String) (condition : Json) :
    selects doc (.single key condition) = selectsOne doc key condition := by
  rw [Json.single, selects, selectsAll]
  cases h : selectsOne doc key condition with
  | error e => rfl
  | ok b => cases b <;> rfl

/-! ## Searches -/

/-- Whether a filter finds a document. -/
def finds (filter d : Json) : Bool :=
  match selects d filter with
  | .ok b => b
  | .error _ => false

/-- A filter evaluates without a fault on every document of a list. -/
def Evaluates (filter : Json) (docs : List Json) : Prop :=
  ∀ d ∈ docs, ∃ b, selects d filter = .ok b

section

variable {filter d : Json} {docs : List Json}

/-- The answer for the first document. -/
theorem Evaluates.head (h : Evaluates filter (d :: docs)) :
    selects d filter = .ok (finds filter d) := by
  obtain ⟨b, selected⟩ := h d (by simp)
  rw [finds, selected]

theorem Evaluates.tail (h : Evaluates filter (d :: docs)) : Evaluates filter docs :=
  fun e he => h e (List.mem_cons_of_mem _ he)

theorem Evaluates.of_subset {kept : List Json} (h : Evaluates filter docs) (sub : kept ⊆ docs) :
    Evaluates filter kept :=
  fun e he => h e (sub he)

/-- A search finds the documents that the filter finds, in order. -/
theorem select_eq_filter (h : Evaluates filter docs) :
    select filter docs = .ok (docs.filter (finds filter)) := by
  induction docs with
  | nil => rfl
  | cons d docs ih =>
    refine Fallible.bind_eq_ok.2 ⟨_, h.head, Fallible.bind_eq_ok.2 ⟨_, ih h.tail, ?_⟩⟩
    cases here : finds filter d with
    | true => rw [List.filter_cons_of_pos here]; rfl
    | false => rw [List.filter_cons_of_neg (by simp [here])]; rfl

end

end Query

end DocStore
