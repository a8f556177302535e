import DocStore.Proofs.Aggregation.Sorting
import DocStore.Proofs.Query.Answers
import DocStore.Proofs.Store.Documents

/-!
# All commands select the same documents

Finding, counting, updating and deleting each go through a collection on their own. For a filter that
can be evaluated on every document they agree on the documents that it selects
(`Store.exists_selection`): each loop is the library's function on lists that does what the command
says, applied to the documents that the filter finds (`Query.finds`). Pages are read one after
another up to the first empty one (`Store.Pages`), and make up the whole result
(`Store.pages_of_windows`).
-/

namespace DocStore

open Fallible (bind_eq_ok)

namespace Store

open Query (finds Evaluates)

variable {filter : Json} {docs : List Json}

/-! ## Loops -/

/-- A delete of all takes out the documents that the filter finds. -/
theorem splitMatching_all (h : Evaluates filter docs) :
    splitMatching filter true docs =
      .ok (docs.filter fun d => !finds filter d, docs.filter (finds filter)) := by
  induction docs with
  | nil => rfl
  | cons d docs ih =>
    rw [splitMatching, h.head, ih h.tail]
    cases here : finds filter d with
    | true => simp [here, pure, Except.pure, bind, Except.bind]
    | false => simp [here, pure, Except.pure, bind, Except.bind]

/-- A delete of one takes out the first document that the filter finds. -/
theorem splitMatching_first (h : Evaluates filter docs) :
    splitMatching filter false docs =
      .ok (docs.eraseP (finds filter), (docs.filter (finds filter)).take 1) := by
  induction docs with
  | nil => rfl
  | cons d docs ih =>
    rw [splitMatching, h.head, ih h.tail]
    cases here : finds filter d with
    | true => simp [here, pure, Except.pure, bind, Except.bind]
    | false => simp [here, pure, Except.pure, bind, Except.bind]

/-- What is found without the first document that was found. -/
theorem filter_eraseP (p : Json → Bool) (docs : List Json) :
    (docs.eraseP p).filter p = (docs.filter p).tail := by
  induction docs with
  | nil => rfl
  | cons d docs ih =>
    cases here : p d with
    | true => simp [here]
    | false => simp [here, ih]

/-- An update of all that is not refused has matched every document that the filter finds. -/
theorem matched_updateDocuments {changes : Json} (h : Evaluates filter docs)
    (accepted : (updateDocuments filter changes true docs).refusal = none) :
    (updateDocuments filter changes true docs).matched = (docs.filter (finds filter)).length := by
  induction docs with
  | nil => rfl
  | cons d docs ih =>
    rw [updateDocuments, h.head] at accepted ⊢
    cases here : finds filter d with
    | false =>
      rw [here] at accepted
      rw [List.filter_cons_of_neg (by simp [here])]
      exact ih h.tail accepted
    | true =>
      rw [here] at accepted
      rw [List.filter_cons_of_pos here, List.length_cons]
      cases applied : Update.apply d changes with
      | error fault => simp [applied] at accepted
      | ok next =>
        simp only [applied, if_true] at accepted ⊢
        -- The refusal is that of the rest, whether or not the document has changed.
        have rest : (updateDocuments filter changes true docs).refusal = none := by
          split at accepted <;> exact accepted
        rw [← ih h.tail rest]
        split <;> rfl

/-- An update that can be applied to every document that the filter finds is not refused. -/
theorem refusal_updateDocuments {changes : Json} (h : Evaluates filter docs)
    (applies : ∀ d ∈ docs.filter (finds filter), ∃ next, Update.apply d changes = .ok next) :
    (updateDocuments filter changes true docs).refusal = none := by
  induction docs with
  | nil => rfl
  | cons d docs ih =>
    rw [updateDocuments, h.head]
    cases here : finds filter d with
    | false =>
      rw [List.filter_cons_of_neg (by simp [here])] at applies
      exact ih h.tail applies
    | true =>
      rw [List.filter_cons_of_pos here] at applies
      obtain ⟨⟨next, applied⟩, later⟩ := List.forall_mem_cons.1 applies
      simp only [applied, if_true]
      split <;> exact ih h.tail later

section

variable {s : Store} {collection : String}

theorem select_of_evaluates (h : Evaluates filter (s.documents collection)) :
    s.select collection filter = .ok ((s.documents collection).filter (finds filter)) := by
  rw [select, Query.select_eq_filter h]

theorem perform_count (h : Evaluates filter (s.documents collection)) :
    (s.perform (.count collection filter)).1 =
      .ok (.count ((s.documents collection).filter (finds filter)).length) := by
  rw [perform, count, select_of_evaluates h]
  rfl

theorem perform_delete {multi : Bool} {kept removed : List Json}
    (h : splitMatching filter multi (s.documents collection) = .ok (kept, removed)) :
    (s.perform (.delete collection filter multi)).1 = .ok (.deleted removed.length) ∧
      (s.perform (.delete collection filter multi)).2.documents collection = kept := by
  rw [perform, delete, h]
  exact ⟨rfl, documents_setDocuments s collection kept⟩

theorem perform_update {changes : Json} {multi : Bool} {matched modified : Nat} :
    (s.perform (.update collection filter changes multi)).1 = .ok (.updated matched modified) ↔
      (updateDocuments filter changes multi (s.documents collection)).refusal = none ∧
      (updateDocuments filter changes multi (s.documents collection)).matched = matched ∧
      (updateDocuments filter changes multi (s.documents collection)).changed.length = modified := by
  simp only [perform, update]
  cases (updateDocuments filter changes multi (s.documents collection)).refusal with
  | none => simp
  | some refusal => simp

end

/-! ## Pages -/

/-- A page of a query whose pages have some size. -/
def pageOf (q : FindQuery) (size n : Nat) : FindQuery :=
  { q with skip := n * size, limit := some size }

/-- What a caller reads who asks for one page of a query after another, from some page on, until a
page is empty. -/
inductive Pages (s : Store) (collection : String) (q : FindQuery) (size : Nat) :
    Nat → List Json → Prop where
  | last {n : Nat} : (s.perform (.find collection (pageOf q size n))).1 = .ok (.documents []) →
    Pages s collection q size n []
  | more {n : Nat} {page rest : List Json} :
    (s.perform (.find collection (pageOf q size n))).1 = .ok (.documents page) → page ≠ [] →
    Pages s collection q size (n + 1) rest → Pages s collection q size n (page ++ rest)

/-- Documents in the order that a query asks for. -/
def Ordered (sort : Option Json) (docs sorted : List Json) : Prop :=
  match sort with
  | none => sorted = docs
  | some spec => Aggregation.sort spec docs = .ok sorted

theorem exists_ordered {sort : Option Json} (h : ∀ spec ∈ sort, Aggregation.IsSortSpec spec)
    (docs : List Json) : ∃ sorted, Ordered sort docs sorted ∧ sorted.Perm docs := by
  cases sort with
  | none => exact ⟨docs, rfl, .refl _⟩
  | some spec =>
    obtain ⟨sorted, done⟩ := (Aggregation.exists_sort_iff docs).2 (h spec rfl)
    exact ⟨sorted, done, Aggregation.perm_of_sort done⟩

section

variable {s : Store} {collection : String} {q : FindQuery} {sorted : List Json}

theorem perform_find (h : Evaluates q.filter (s.documents collection)) (whole : q.projection = none)
    (ordered : Ordered q.sort ((s.documents collection).filter (finds q.filter)) sorted) :
    (s.perform (.find collection q)).1 =
      .ok (.documents (truncate q.limit (sorted.drop q.skip))) := by
  have found : s.find collection q = .ok (truncate q.limit (sorted.drop q.skip)) := by
    rw [find, select_of_evaluates h, whole]
    cases sort : q.sort with
    | none =>
      rw [sort] at ordered
      cases ordered
      rfl
    | some spec =>
      rw [sort] at ordered
      change Aggregation.sort spec _ = .ok sorted at ordered
      refine bind_eq_ok.2 ⟨_, rfl, bind_eq_ok.2 ⟨sorted, ?_, rfl⟩⟩
      simp only [ordered, refuse]
  rw [perform, found]
  rfl

theorem truncate_of_pos {size : Nat} (positive : 0 < size) (docs : List Json) :
    truncate (some size) docs = docs.take size := by
  cases size with
  | zero => cases positive
  | succ n => rfl

/-- **The pages of a result make up the result**, each of its documents once: the caller comes to an
empty page, and has read all that follows the first documents. -/
theorem pages_of_windows {size : Nat} (positive : 0 < size)
    (window : ∀ n, (s.perform (.find collection (pageOf q size n))).1 =
      .ok (.documents ((sorted.drop (n * size)).take size))) {n : Nat} {docs : List Json} :
    Pages s collection q size n docs ↔ docs = sorted.drop (n * size) := by
  have onwards (n : Nat) : (sorted.drop (n * size)).take size ++ sorted.drop ((n + 1) * size) =
      sorted.drop (n * size) := by
    rw [Nat.succ_mul, ← List.drop_drop]
    exact List.take_append_drop size _
  constructor
  · intro h
    induction h with
    | @last n empty =>
      rw [window n] at empty
      injection empty with empty
      injection empty with empty
      have none := List.take_eq_nil_iff.1 empty
      exact (none.resolve_left (by omega)).symm
    | @more n page rest here _ _ ih =>
      rw [window n] at here
      injection here with here
      injection here with here
      rw [← here, ih, onwards]
  · rintro rfl
    -- There are fewer documents left from page to page.
    induction left : sorted.length - n * size using Nat.strongRecOn generalizing n with
    | _ left ih =>
      by_cases empty : sorted.drop (n * size) = []
      · rw [empty]
        exact .last (by rw [window, empty, List.take_nil])
      · have inside : n * size < sorted.length := by simpa using empty
        rw [← onwards]
        refine .more (window n) ?_ (ih _ ?_ rfl)
        · simpa [List.take_eq_nil_iff] using ⟨by omega, by simpa using inside⟩
        · rw [Nat.succ_mul]
          omega

end

/-! ## Agreement -/

/-- All commands agree that a filter selects some documents of a collection. -/
structure Selection (s : Store) (collection : String) (filter : Json) (found : List Json) :
    Prop where
  /-- What is found are the documents that the filter finds, in the order of the collection. -/
  filtered : found = (s.documents collection).filter (finds filter)
  find : (s.perform (.find collection { filter })).1 = .ok (.documents found)
  count : (s.perform (.count collection filter)).1 = .ok (.count found.length)
  /-- A delete of all removes what is found, and nothing else. -/
  deleteAll : (s.perform (.delete collection filter true)).1 = .ok (.deleted found.length) ∧
    (s.perform (.delete collection filter true)).2.documents collection =
      (s.documents collection).filter fun d => !finds filter d
  /-- After a delete of all, nothing is left to count. -/
  countAfter : ((s.perform (.delete collection filter true)).2.perform
    (.count collection filter)).1 = .ok (.count 0)
  /-- A delete of one removes the first of what is found. -/
  deleteFirst : (s.perform (.delete collection filter false)).1 =
      .ok (.deleted (found.take 1).length) ∧
    (s.perform (.delete collection filter false)).2.documents collection =
      (s.documents collection).eraseP (finds filter)
  /-- After a delete of one, the others are found. -/
  findAfter : ((s.perform (.delete collection filter false)).2.perform
    (.find collection { filter })).1 = .ok (.documents found.tail)
  /-- An update of all that succeeds has matched what is found. -/
  matched : ∀ changes matched modified,
    (s.perform (.update collection filter changes true)).1 = .ok (.updated matched modified) →
      matched = found.length
  /-- An update of all succeeds if it can be applied to what is found. -/
  updates : ∀ changes, (∀ d ∈ found, ∃ next, Update.apply d changes = .ok next) →
    ∃ modified, (s.perform (.update collection filter changes true)).1 =
      .ok (.updated found.length modified)
  /-- The pages of a sorted result make up the result, which is what is found in another order. -/
  pages : ∀ sort : Option Json, (∀ spec ∈ sort, Aggregation.IsSortSpec spec) →
    ∃ sorted, sorted.Perm found ∧
      (s.perform (.find collection { filter, sort })).1 = .ok (.documents sorted) ∧
      ∀ size, 0 < size → ∀ docs, Pages s collection { filter, sort } size 0 docs ↔ docs = sorted

/-- **All commands select the same documents.** -/
theorem exists_selection {s : Store} {collection : String} {filter : Json}
    (evaluates : Evaluates filter (s.documents collection)) :
    ∃ found, s.Selection collection filter found := by
  have all := perform_delete (splitMatching_all evaluates)
  have first := perform_delete (splitMatching_first evaluates)
  -- The filter can still be evaluated on what a delete has left.
  have afterAll : Evaluates filter
      ((s.perform (.delete collection filter true)).2.documents collection) :=
    evaluates.of_subset (all.2 ▸ List.filter_subset_self _)
  have afterFirst : Evaluates filter
      ((s.perform (.delete collection filter false)).2.documents collection) :=
    evaluates.of_subset (first.2 ▸ List.eraseP_subset)
  refine ⟨_, ⟨rfl, perform_find evaluates rfl rfl, perform_count evaluates, all, ?_, first, ?_, ?_,
    ?_, ?_⟩⟩
  · rw [perform_count afterAll, all.2, List.filter_filter]
    simp
  · rw [perform_find (q := { filter }) afterFirst rfl rfl, first.2, filter_eraseP]
    rfl
  · intro changes matched modified updated
    obtain ⟨accepted, same, -⟩ := perform_update.1 updated
    rw [← same, matched_updateDocuments evaluates accepted]
  · intro changes applies
    have accepted := refusal_updateDocuments evaluates applies
    exact ⟨_, perform_update.2 ⟨accepted, matched_updateDocuments evaluates accepted, rfl⟩⟩
  · intro sort directions
    obtain ⟨sorted, ordered, perm⟩ := exists_ordered directions
      ((s.documents collection).filter (finds filter))
    refine ⟨sorted, perm, perform_find evaluates rfl ordered, fun size positive docs => ?_⟩
    have window (n : Nat) : (s.perform (.find collection
        (pageOf { filter, sort } size n))).1 =
          .ok (.documents ((sorted.drop (n * size)).take size)) := by
      rw [perform_find evaluates rfl ordered, pageOf, truncate_of_pos positive]
    rw [pages_of_windows positive window, Nat.zero_mul, List.drop_zero]

/-- A filter that selects the second of two documents. -/
theorem exists_selection_of_second :
    let s : Store := { collections := [("c", [.obj [("n", .int 1)], .obj [("n", .int 2)]])] }
    let filter : Json := .obj [("n", .obj [("$gte", .int 2)])]
    s.Selection "c" filter [.obj [("n", .int 2)]] := by
  intro s filter
  have evaluates : Evaluates filter (s.documents "c") := by
    intro d hd
    rcases List.mem_pair.1 hd with rfl | rfl
    · exact ⟨false, by rfl⟩
    · exact ⟨true, by rfl⟩
  obtain ⟨found, selection⟩ := exists_selection evaluates
  have second : found = [.obj [("n", .int 2)]] := selection.filtered.trans (by rfl)
  exact second ▸ selection

end Store

end DocStore
