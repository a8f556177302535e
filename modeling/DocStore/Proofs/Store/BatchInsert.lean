import DocStore.Proofs.Store.Accounting

/-!
# What a batch insert keeps

A document of a batch is acceptable after the documents that are there already
(`Store.Acceptable`). An ordered insert keeps the longest prefix of its batch that is acceptable in
turn, another sifts the whole batch (`Store.Sifts`), and both answer with the reason of the first
document that is not acceptable (`Store.insert_keeps`).
-/

namespace DocStore.Store

/-! ## Candidates -/

/-- A document as it is offered to a collection: with an identifier, if it is an object. -/
def identifyOne (doc : Json) (ids : IdSupply) : Json × IdSupply :=
  match doc with
  | .obj fs =>
    let (_, fs, ids) := Fields.identify false fs ids
    (.obj fs, ids)
  | v => (v, ids)

/-- A batch as it is offered to a collection, with identifiers generated in turn. -/
def identifyAll : List Json → IdSupply → List Json
  | [], _ => []
  | doc :: rest, ids => (identifyOne doc ids).1 :: identifyAll rest (identifyOne doc ids).2

/-- A document is offered as it was given, up to a missing identifier. -/
def Offers (given d : Json) : Prop := given.isObject = false ∧ d = given ∨ Identifies given d

theorem offers_identifyOne (doc : Json) (ids : IdSupply) : Offers doc (identifyOne doc ids).1 := by
  cases doc with
  | obj fs => exact .inr (identifies_identify fs ids).1
  | _ => exact .inl ⟨rfl, rfl⟩

/-- Each document of a batch is offered with an identifier, its own if it has one. -/
theorem offers_identifyAll (docs : List Json) (ids : IdSupply) :
    List.Forall₂ Offers docs (identifyAll docs ids) := by
  induction docs generalizing ids with
  | nil => exact .nil
  | cons doc docs ih => exact .cons (offers_identifyOne doc ids) (ih _)

/-! ## Acceptable documents -/

/-- A document can be stored after others: it is an object, and its identifier is not equal to one
of theirs. -/
def Acceptable (taken : List Json) (d : Json) : Prop :=
  d.isObject = true ∧ ∀ e ∈ taken, ∀ id, e.get? "_id" = some id → id.equals (idOf d) = false

/-- Each document is acceptable after the documents before it. -/
def AcceptableInTurn (taken batch : List Json) : Prop :=
  ∀ before d after, batch = before ++ d :: after → Acceptable (taken ++ before) d

/-- Of a batch that is worked off from the left, the acceptable documents are stored and the others
skipped. -/
inductive Sifts : List Json → List Json → List Json → Prop where
  | nil {taken : List Json} : Sifts taken [] []
  | store {taken batch stored : List Json} {d : Json} : Acceptable taken d →
    Sifts (taken ++ [d]) batch stored → Sifts taken (d :: batch) (d :: stored)
  | skip {taken batch stored : List Json} {d : Json} : ¬ Acceptable taken d →
    Sifts taken batch stored → Sifts taken (d :: batch) stored

/-- A batch is split before the first document that is not acceptable. -/
structure Splits (taken batch accepted rest : List Json) : Prop where
  parts : batch = accepted ++ rest
  turn : AcceptableInTurn taken accepted
  stops : ∀ d ∈ rest.head?, ¬ Acceptable (taken ++ accepted) d

section

variable {taken batch accepted rest : List Json} {d : Json}

/-- An identifier is free if no document has an equal one. -/
theorem hasId_eq_false : hasId taken (idOf d) = false ↔
    ∀ e ∈ taken, ∀ id, e.get? "_id" = some id → id.equals (idOf d) = false := by
  simp only [hasId, List.any_eq_false, Option.any_eq_true_iff_get]
  constructor
  · intro h e he id here
    simpa [here] using h e he
  · intro h e he
    cases here : e.get? "_id" with
    | none => simp
    | some id => simp [h e he id here]

theorem acceptableInTurn_nil : AcceptableInTurn taken [] := by
  intro before d after h
  simp at h

theorem acceptableInTurn_cons : AcceptableInTurn taken (d :: batch) ↔
    Acceptable taken d ∧ AcceptableInTurn (taken ++ [d]) batch := by
  constructor
  · intro h
    refine ⟨by simpa using h [] d batch rfl, fun before e after same => ?_⟩
    simpa using h (d :: before) e after (by rw [same, List.cons_append])
  · rintro ⟨here, there⟩ (_ | ⟨e, before⟩) f after same
    · cases same
      simpa using here
    · cases same
      simpa using there before f after rfl

theorem Splits.accept (here : Acceptable taken d) (h : Splits (taken ++ [d]) batch accepted rest) :
    Splits taken (d :: batch) (d :: accepted) rest :=
  ⟨by rw [h.parts, List.cons_append], acceptableInTurn_cons.2 ⟨here, h.turn⟩,
    by simpa using h.stops⟩

theorem Splits.refuse (here : ¬ Acceptable taken d) : Splits taken (d :: batch) [] (d :: batch) :=
  ⟨rfl, acceptableInTurn_nil, by simpa using here⟩

/-- The first document of a batch is acceptable, or the split is before it. -/
theorem Splits.of_cons (h : Splits taken (d :: batch) accepted rest) :
    (Acceptable taken d ∧ ∃ others, accepted = d :: others ∧
      Splits (taken ++ [d]) batch others rest) ∨
    (¬ Acceptable taken d ∧ accepted = [] ∧ rest = d :: batch) := by
  obtain ⟨parts, turn, stops⟩ := h
  cases accepted with
  | nil =>
    cases parts
    exact .inr ⟨by simpa using stops, rfl, rfl⟩
  | cons e others =>
    cases parts
    obtain ⟨here, there⟩ := acceptableInTurn_cons.1 turn
    exact .inl ⟨here, others, rfl, rfl, there, by simpa using stops⟩

theorem Splits.of_nil (h : Splits taken [] accepted rest) : accepted = [] ∧ rest = [] :=
  List.append_eq_nil_iff.1 h.parts.symm

/-- A batch has a longest beginning that can be stored. -/
theorem exists_splits (taken batch : List Json) : ∃ accepted rest, Splits taken batch accepted rest := by
  induction batch generalizing taken with
  | nil => exact ⟨[], [], rfl, acceptableInTurn_nil, by simp⟩
  | cons d batch ih =>
    by_cases here : Acceptable taken d
    · obtain ⟨accepted, rest, split⟩ := ih (taken ++ [d])
      exact ⟨d :: accepted, rest, split.accept here⟩
    · exact ⟨[], d :: batch, .refuse here⟩

/-- What is split off is the longest prefix that is acceptable in turn. -/
theorem Splits.longest (h : Splits taken batch accepted rest) {before : List Json}
    (first : before <+: batch) (turn : AcceptableInTurn taken before) : before <+: accepted := by
  rcases List.prefix_or_prefix_of_prefix first ⟨rest, h.parts.symm⟩ with shorter | ⟨more, rfl⟩
  · exact shorter
  · -- A longer one would go on with the document at which the batch is split.
    cases more with
    | nil => simp
    | cons d more =>
      obtain ⟨after, same⟩ := first
      have next : rest = d :: more ++ after := by
        rw [h.parts, List.append_assoc] at same
        exact (List.append_cancel_left same).symm
      exact absurd (turn accepted d more rfl) (h.stops d (by simp [next]))

end

/-! ## Runs -/

/-- Why a document of a batch is refused. -/
def reasonFor (database collection : String) (d : Json) : Refusal :=
  if d.isObject then .duplicateKey database collection (idOf d) else .documentNotObject

/-- A run that has stored some documents. -/
def InsertRun.having (stored : List Json) (refusal : Option Refusal) (ids : IdSupply) : InsertRun :=
  ⟨stored.map fun d => (idOf d, d), refusal, ids⟩

section

variable {database collection : String} {existing stored : List Json} {refusal : Option Refusal}
  {ids : IdSupply}

open InsertRun (having)

theorem map_having :
    existing ++ (having stored refusal ids).stored.map (·.2) = existing ++ stored := by
  simp [having, Function.comp_def]

/-- A document that can be stored is stored behind the others. -/
theorem insertOne_of_acceptable {doc : Json}
    (h : Acceptable (existing ++ stored) (identifyOne doc ids).1) :
    insertOne database collection existing (having stored refusal ids) doc =
      having (stored ++ [(identifyOne doc ids).1]) refusal (identifyOne doc ids).2 := by
  cases doc with
  | obj fs =>
    obtain ⟨-, named⟩ := identifies_identify fs ids
    have unused : hasId (existing ++ stored) (Fields.identify false fs ids).1 = false :=
      named ▸ hasId_eq_false.2 h.2
    have unused : hasId (existing ++ (having stored refusal ids).stored.map (·.2))
        (Fields.identify false fs (having stored refusal ids).ids).1 = false := by
      rwa [map_having]
    simp only [insertOne, unused]
    simp [having, identifyOne, named]
  | _ => cases h.1

theorem insertOne_of_not_acceptable {doc : Json}
    (h : ¬ Acceptable (existing ++ stored) (identifyOne doc ids).1) :
    insertOne database collection existing (having stored refusal ids) doc =
      having stored (refusal.or (some (reasonFor database collection (identifyOne doc ids).1)))
        (identifyOne doc ids).2 := by
  cases doc with
  | obj fs =>
    obtain ⟨-, named⟩ := identifies_identify fs ids
    have used : hasId (existing ++ stored) (Fields.identify false fs ids).1 = true := by
      rw [← named, ← Bool.not_eq_false, hasId_eq_false]
      exact fun fresh => h ⟨rfl, fresh⟩
    have used : hasId (existing ++ (having stored refusal ids).stored.map (·.2))
        (Fields.identify false fs (having stored refusal ids).ids).1 = true := by
      rwa [map_having]
    simp only [insertOne, used]
    simp [having, identifyOne, InsertRun.refuse, reasonFor, named, Json.isObject]
  | _ => rfl

/-- An ordered batch is stored up to the first document that is not acceptable. -/
theorem insertBatch_ordered (database collection : String) {docs accepted rest : List Json}
    (split : Splits (existing ++ stored) (identifyAll docs ids) accepted rest) :
    ∃ ids', insertBatch database collection existing true docs (having stored none ids) =
      having (stored ++ accepted) (rest.head?.map (reasonFor database collection)) ids' := by
  induction docs generalizing stored ids accepted with
  | nil =>
    obtain ⟨rfl, rfl⟩ := split.of_nil
    exact ⟨ids, by simp [insertBatch]⟩
  | cons doc docs ih =>
    rw [identifyAll] at split
    rcases split.of_cons with ⟨here, others, rfl, later⟩ | ⟨here, rfl, rfl⟩
    · rw [List.append_assoc] at later
      obtain ⟨ids', done⟩ := ih later
      refine ⟨ids', ?_⟩
      rw [insertBatch, insertOne_of_acceptable here]
      simpa [having] using done
    · refine ⟨(identifyOne doc ids).2, ?_⟩
      rw [insertBatch, insertOne_of_not_acceptable here]
      simp [having]

/-- Another batch is sifted. The reason that is kept is that of the first document that is not
acceptable, unless there was one before. -/
theorem insertBatch_unordered (database collection : String) (refusal : Option Refusal)
    {docs accepted rest : List Json}
    (split : Splits (existing ++ stored) (identifyAll docs ids) accepted rest) :
    ∃ kept ids', Sifts (existing ++ stored) (identifyAll docs ids) kept ∧
      insertBatch database collection existing false docs (having stored refusal ids) =
        having (stored ++ kept)
          (refusal.or (rest.head?.map (reasonFor database collection))) ids' := by
  induction docs generalizing stored refusal ids accepted rest with
  | nil =>
    obtain ⟨rfl, rfl⟩ := split.of_nil
    exact ⟨[], ids, .nil, by simp [insertBatch]⟩
  | cons doc docs ih =>
    rw [identifyAll] at split
    rcases split.of_cons with ⟨here, others, rfl, later⟩ | ⟨here, rfl, rfl⟩
    · rw [List.append_assoc] at later
      obtain ⟨kept, ids', sifts, done⟩ := ih refusal later
      rw [← List.append_assoc] at sifts
      refine ⟨(identifyOne doc ids).1 :: kept, ids', .store here sifts, ?_⟩
      rw [insertBatch, insertOne_of_acceptable here]
      simpa using done
    · -- The rest is split anew; its reason does not count any more.
      obtain ⟨_, _, later⟩ := exists_splits (existing ++ stored)
        (identifyAll docs (identifyOne doc ids).2)
      obtain ⟨kept, ids', sifts, done⟩ := ih
        (refusal.or (some (reasonFor database collection (identifyOne doc ids).1))) later
      refine ⟨kept, ids', .skip here sifts, ?_⟩
      rw [insertBatch, insertOne_of_not_acceptable here]
      simpa [identifyAll, Option.or_assoc] using done

end

/-! ## Inserts -/

/-- **A batch insert keeps exactly the documents that it should.** An ordered one stores the longest
prefix of its batch that is acceptable in turn, another sifts the batch; what is stored follows the
documents that were there, as it was given up to a missing identifier. The answer are the
identifiers, or the reason of the first document that is not acceptable: with the number of documents
stored, if there are any. -/
theorem insert_keeps (s : Store) (collection : String) (docs : List Json) (ordered : Bool) :
    List.Forall₂ Offers docs (identifyAll docs s.ids) ∧
    ∃ accepted rest stored,
      Splits (s.documents collection) (identifyAll docs s.ids) accepted rest ∧
      (∀ before, before <+: identifyAll docs s.ids →
        AcceptableInTurn (s.documents collection) before → before <+: accepted) ∧
      (if ordered then stored = accepted
        else Sifts (s.documents collection) (identifyAll docs s.ids) stored) ∧
      (s.perform (.insert collection docs ordered)).2.documents collection =
        s.documents collection ++ stored ∧
      (s.perform (.insert collection docs ordered)).1 =
        match rest.head? with
        | none => .ok (.inserted (stored.map idOf))
        | some d => .error (if stored = [] then (reasonFor s.name collection d).toError
          else .partialWrite stored.length (reasonFor s.name collection d).message) := by
  obtain ⟨accepted, rest, split⟩ := exists_splits (s.documents collection) (identifyAll docs s.ids)
  have split' : Splits (s.documents collection ++ []) (identifyAll docs s.ids) accepted rest := by
    rwa [List.append_nil]
  obtain ⟨stored, ids', kept, run⟩ : ∃ stored ids',
      (if ordered then stored = accepted
        else Sifts (s.documents collection) (identifyAll docs s.ids) stored) ∧
      insertBatch s.name collection (s.documents collection) ordered docs { ids := s.ids } =
        InsertRun.having stored (rest.head?.map (reasonFor s.name collection)) ids' := by
    cases ordered with
    | true =>
      obtain ⟨ids', run⟩ := insertBatch_ordered s.name collection split'
      exact ⟨accepted, ids', rfl, run⟩
    | false =>
      obtain ⟨stored, ids', sifts, run⟩ := insertBatch_unordered s.name collection none split'
      rw [List.append_nil] at sifts
      exact ⟨stored, ids', sifts, run⟩
  refine ⟨offers_identifyAll docs s.ids, accepted, rest, stored, split, fun _ => split.longest, kept,
    ?_, ?_⟩
  · rw [perform, insert_eq run]
    exact documents_setDocuments s collection _
  · cases head : rest.head? with
    | none =>
      rw [head] at run
      rw [perform, insert_eq run]
      rfl
    | some d =>
      rw [head] at run
      rw [perform, insert_eq run]
      simp [Refusal.after]

/-- The reason that is reported is the first, and the documents after it are stored. -/
example : (Store.perform {} (.insert "c" [.obj [("_id", .int 1)], .null, .obj [("_id", .int 1)],
    .obj [("_id", .int 2)]] false)).1 = .error (.partialWrite 2 "document must be an object") := by
  rfl

end DocStore.Store
