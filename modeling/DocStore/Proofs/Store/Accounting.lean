import DocStore.Proofs.Fallible
import DocStore.Proofs.Store.Documents
import DocStore.Response

/-!
# Writes account for what they do

A write says how many documents it concerned, and the documents and the log bear it out
(`Store.execute_accounted`), also where the write stops in the middle. What a write does to a
collection is a list of fates, one for each document that was there, and the documents added.
-/

namespace DocStore

/-- The number of documents that a reply says were written. -/
def Reply.written : Reply → Nat
  | .inserted ids => ids.length
  | .updated _ modified => modified
  | .deleted n => n
  | _ => 0

/-- The number of documents that an outcome says were written. -/
def TransportResult.written : TransportResult Reply → Nat
  | .ok reply => reply.written
  | .error e => e.affected

namespace Store

open Fallible (bind_eq_ok)

/-- What becomes of a document. -/
inductive Fate where
  | kept
  | replaced (next : Json)
  | removed

namespace Fate

/-- The document afterwards, if it is still there. -/
def result? (d : Json) : Fate → Option Json
  | kept => some d
  | replaced next => some next
  | removed => none

/-- The change that is logged, with the identifier of the document. -/
def change? (d : Json) : Fate → Option (Json × Change)
  | kept => none
  | replaced next => some (idOf next, .updated next)
  | removed => some (idOf d, .removed)

/-- Whether something was done to the document. -/
def touched : Fate → Bool
  | kept => false
  | _ => true

/-- An update has reason for the fate: what it replaces is selected, and replaced by a different
value, which is the whole update of it. -/
def UpdatedBy (filter changes d : Json) : Fate → Prop
  | kept => True
  | replaced next => Query.selects d filter = .ok true ∧ Update.apply d changes = .ok next ∧
      next.same d = false
  | removed => False

/-- A delete has reason for the fate: what it removes is selected. -/
def DeletedBy (filter d : Json) : Fate → Prop
  | kept => True
  | replaced _ => False
  | removed => Query.selects d filter = .ok true

end Fate

/-- Documents to which nothing happens. -/
def keep (docs : List Json) : List (Json × Fate) := docs.map fun d => (d, .kept)

section

variable (docs : List Json)

@[simp]
theorem map_keep : (keep docs).map (·.1) = docs := by
  simp [keep, Function.comp_def]

@[simp]
theorem result_keep : (keep docs).filterMap (fun f => f.2.result? f.1) = docs := by
  simp [keep, List.filterMap_map, Fate.result?]

@[simp]
theorem change_keep : (keep docs).filterMap (fun f => f.2.change? f.1) = [] := by
  simp [keep, List.filterMap_map, Fate.change?]

@[simp]
theorem touched_keep : (keep docs).countP (·.2.touched) = 0 := by
  simp [keep, List.countP_map, Fate.touched, Function.comp_def]

theorem forall_mem_keep {P : Json × Fate → Prop} (h : ∀ d, P (d, .kept)) : ∀ f ∈ keep docs, P f := by
  simpa [keep] using fun d _ => h d

end

/-- A document was stored as it was given, with an identifier at its end if it came without. -/
def Identifies (given stored : Json) : Prop :=
  ∃ fs, given = .obj fs ∧
    (Fields.contains fs "_id" = true ∧ stored = .obj fs ∨
      Fields.contains fs "_id" = false ∧ ∃ id, stored = .obj (fs ++ [("_id", .str id)]))

/-- A command gives reason for the fates of documents and for the documents added. -/
def Justifies (command : Command) (fates : List (Json × Fate)) (added : List Json) : Prop :=
  match command with
  | .insert _ docs _ =>
    (∀ f ∈ fates, f.2 = .kept) ∧ List.SublistForall₂ (fun d given => Identifies given d) added docs
  | .update _ filter changes _ =>
    (∀ f ∈ fates, f.2.UpdatedBy filter changes f.1) ∧ added = []
  | .delete _ filter _ => (∀ f ∈ fates, f.2.DeletedBy filter f.1) ∧ added = []
  | _ => False

/-- The changes that fates and added documents make, in the order of the collection. -/
def changesOf (fates : List (Json × Fate)) (added : List Json) : List (Json × Change) :=
  fates.filterMap (fun f => f.2.change? f.1) ++ added.map fun d => (idOf d, .inserted d)

/-- There is one change for each document that was touched or added. -/
theorem length_changesOf (fates : List (Json × Fate)) (added : List Json) :
    (changesOf fates added).length = fates.countP (·.2.touched) + added.length := by
  have touched : (fates.filterMap fun f => f.2.change? f.1).length = fates.countP (·.2.touched) := by
    rw [List.length_filterMap_eq_countP]
    congr 1
    funext f
    cases f.2 <;> rfl
  rw [changesOf, List.length_append, List.length_map, touched]

/-- A command that claims to have written a number of documents took a store to another, with
these fates of the documents of its collection and these documents added at its end. -/
structure Accounted (command : Command) (before after : Store) (n : Nat)
    (fates : List (Json × Fate)) (added : List Json) : Prop where
  justified : Justifies command fates added
  found : before.documents command.collection = fates.map (·.1)
  left : after.documents command.collection =
    fates.filterMap (fun f => f.2.result? f.1) ++ added
  count : n = fates.countP (·.2.touched) + added.length
  events : after.events = before.events ++ (changesOf fates added).mapIdx fun i change =>
    ⟨before.name, command.collection, change.1, change.2, before.calendar (before.events.length + i)⟩
  others : ∀ c, c ≠ command.collection → after.documents c = before.documents c
  cursors : after.cursors = before.cursors ∧ after.nextCursor = before.nextCursor

/-- There is one event for each document written. -/
theorem Accounted.events_length {command : Command} {before after : Store} {n : Nat}
    {fates : List (Json × Fate)} {added : List Json} (h : Accounted command before after n fates added) :
    after.events.length = before.events.length + n := by
  rw [h.events, h.count, List.length_append, List.length_mapIdx, length_changesOf]

/-! ## Inserts -/

theorem identifies_identify (fs : Fields) (ids : IdSupply) :
    Identifies (.obj fs) (.obj (Fields.identify false fs ids).2.1) ∧
      idOf (.obj (Fields.identify false fs ids).2.1) = (Fields.identify false fs ids).1 := by
  unfold Fields.identify
  cases h : Fields.get? fs "_id" with
  | some id =>
    refine ⟨⟨fs, rfl, .inl ⟨by simp [Fields.contains, h], rfl⟩⟩, ?_⟩
    simp [idOf, Json.get?, h]
  | none =>
    refine ⟨⟨fs, rfl, .inr ⟨by simp [Fields.contains, h], _, rfl⟩⟩, ?_⟩
    simp only [Fields.get?] at h
    simp [idOf, Json.get?, Fields.get?, List.lookup_append, h]

/-- What a batch stores beyond what it had stored before: documents of the batch, in order. -/
theorem stored_insertBatch (database collection : String) (existing : List Json) (ordered : Bool)
    (docs : List Json) (r : InsertRun) :
    ∃ added, (insertBatch database collection existing ordered docs r).stored =
        r.stored ++ added.map (fun d => (idOf d, d)) ∧
      List.SublistForall₂ (fun d given => Identifies given d) added docs := by
  induction docs generalizing r with
  | nil => exact ⟨[], by simp [insertBatch], .nil⟩
  | cons doc docs ih =>
    have one : (insertOne database collection existing r doc).stored = r.stored ∨
        ∃ d, Identifies doc d ∧
          (insertOne database collection existing r doc).stored = r.stored ++ [(idOf d, d)] := by
      unfold insertOne
      cases doc with
      | obj fs =>
        obtain ⟨identifies, id⟩ := identifies_identify fs r.ids
        dsimp only
        split
        · exact .inl rfl
        · exact .inr ⟨_, identifies, by rw [id]⟩
      | _ => exact .inl rfl
    rw [insertBatch]
    split
    · rcases one with same | ⟨d, identifies, stored⟩
      · exact ⟨[], by simp [same], .nil⟩
      · exact ⟨[d], by simp [stored], .cons identifies .nil⟩
    · obtain ⟨added, stored, origin⟩ := ih (insertOne database collection existing r doc)
      rcases one with same | ⟨d, identifies, more⟩
      · exact ⟨added, by rw [stored, same], .cons_right origin⟩
      · exact ⟨d :: added, by simp [stored, more], .cons identifies origin⟩

theorem affected_after (refusal : Refusal) (n : Nat) : (refusal.after n).affected = n := by
  unfold Refusal.after
  split
  · rename_i none
    rw [none]
    rfl
  · rfl

/-- An insert stores the documents of its batch after those of the collection, and logs them. -/
theorem insert_eq {s : Store} {collection : String} {docs added : List Json} {ordered : Bool}
    {refusal : Option Refusal} {ids : IdSupply}
    (h : insertBatch s.name collection (s.documents collection) ordered docs { ids := s.ids } =
      ⟨added.map fun d => (idOf d, d), refusal, ids⟩) :
    s.insert collection docs ordered =
      (match refusal with
        | none => .ok (.inserted (added.map idOf))
        | some refusal => .error (refusal.after added.length),
      log { s.setDocuments collection (s.documents collection ++ added) with ids } collection
        (added.map fun d => (idOf d, .inserted d))) := by
  unfold insert
  cases refusal <;> simp [h, Function.comp_def]

theorem insert_accounted (s : Store) (collection : String) (docs : List Json) (ordered : Bool) :
    ∃ added, Accounted (.insert collection docs ordered) s (s.insert collection docs ordered).2
        (s.insert collection docs ordered).1.written
        (keep (s.documents collection)) added ∧
      ∀ ids, (s.insert collection docs ordered).1 = .ok (.inserted ids) → ids = added.map idOf := by
  obtain ⟨added, stored, origin⟩ :=
    stored_insertBatch s.name collection (s.documents collection) ordered docs { ids := s.ids }
  obtain ⟨refusal, ids, batch⟩ : ∃ refusal ids, insertBatch s.name collection
      (s.documents collection) ordered docs { ids := s.ids } =
        ⟨added.map fun d => (idOf d, d), refusal, ids⟩ :=
    ⟨_, _, by rw [List.nil_append] at stored; rw [← stored]⟩
  rw [insert_eq batch]
  refine ⟨added, ⟨⟨forall_mem_keep _ fun _ => rfl, origin⟩, (map_keep _).symm, ?_, ?_, ?_, ?_,
    ⟨rfl, rfl⟩⟩, ?_⟩
  · rw [result_keep]
    exact documents_setDocuments s collection _
  · rw [touched_keep, Nat.zero_add]
    cases refusal with
    | none => simp [TransportResult.written, Reply.written]
    | some refusal => exact affected_after refusal added.length
  · rw [changesOf, change_keep]
    rfl
  · intro c other
    exact documents_setDocuments_of_ne s collection _ other
  · intro ids same
    cases refusal with
    | none =>
      cases same
      rfl
    | some refusal => cases same

/-! ## Updates -/

/-- What an update does to documents: some are replaced, and the changed ones are those. -/
theorem fates_updateDocuments (filter changes : Json) (multi : Bool) (docs : List Json) :
    ∃ fates : List (Json × Fate), docs = fates.map (·.1) ∧
      (∀ f ∈ fates, f.2.UpdatedBy filter changes f.1) ∧
      (updateDocuments filter changes multi docs).docs = fates.filterMap (fun f => f.2.result? f.1) ∧
      (updateDocuments filter changes multi docs).changed.map (fun d => (idOf d, Change.updated d)) =
        fates.filterMap (fun f => f.2.change? f.1) := by
  induction docs with
  | nil => exact ⟨[], rfl, by simp, rfl, rfl⟩
  | cons d docs ih =>
    obtain ⟨fates, found, reasons, left, changed⟩ := ih
    rw [updateDocuments]
    split
    · exact ⟨keep (d :: docs), by simp, forall_mem_keep _ fun _ => trivial, by simp, by simp⟩
    · exact ⟨(d, .kept) :: fates, by simp [found], List.forall_mem_cons.2 ⟨trivial, reasons⟩,
        by simp [left, Fate.result?], by simp [changed, Fate.change?]⟩
    · rename_i selected
      split
      · exact ⟨keep (d :: docs), by simp, forall_mem_keep _ fun _ => trivial, by simp, by simp⟩
      · rename_i next applied
        -- A single update leaves the rest as it is, another goes on with it.
        obtain ⟨later, found, reasons, left, changed⟩ : ∃ later : List (Json × Fate),
            docs = later.map (·.1) ∧ (∀ f ∈ later, f.2.UpdatedBy filter changes f.1) ∧
            (if multi then updateDocuments filter changes multi docs else { docs }).docs =
              later.filterMap (fun f => f.2.result? f.1) ∧
            (if multi then updateDocuments filter changes multi docs else { docs }).changed.map
              (fun d => (idOf d, Change.updated d)) = later.filterMap (fun f => f.2.change? f.1) := by
          cases multi with
          | true => exact ⟨fates, found, reasons, left, changed⟩
          | false =>
            exact ⟨keep docs, by simp, forall_mem_keep _ fun _ => trivial, by simp, by simp⟩
        dsimp only
        split
        · exact ⟨(d, .kept) :: later, by simp [found], List.forall_mem_cons.2 ⟨trivial, reasons⟩,
            by simp [left, Fate.result?], by simp [changed, Fate.change?]⟩
        · rename_i different
          refine ⟨(d, .replaced next) :: later, by simp [found], List.forall_mem_cons.2
            ⟨⟨selected, applied, by simpa using different⟩, reasons⟩, by simp [left, Fate.result?],
            by simp [changed, Fate.change?]⟩

theorem length_of_changes {fates : List (Json × Fate)} {changes : List (Json × Change)}
    (h : changes = fates.filterMap fun f => f.2.change? f.1) :
    changes.length = fates.countP (·.2.touched) := by
  have := length_changesOf fates []
  simpa [changesOf, ← h] using this

section

variable (s : Store) (collection : String) (filter changes : Json) (multi : Bool)

theorem update_state : (s.update collection filter changes multi).2 =
    (s.setDocuments collection
      (updateDocuments filter changes multi (s.documents collection)).docs).log collection
        ((updateDocuments filter changes multi (s.documents collection)).changed.map
          fun d => (idOf d, .updated d)) := by
  unfold update
  dsimp only
  split <;> rfl

theorem written_update : (s.update collection filter changes multi).1.written =
    (updateDocuments filter changes multi (s.documents collection)).changed.length := by
  unfold update
  dsimp only
  split
  · rfl
  · exact affected_after _ _

/-- An update accounts for the documents that it changed, also where it stops early. -/
theorem update_accounted :
    ∃ fates, Accounted (.update collection filter changes multi) s
      (s.update collection filter changes multi).2
      (s.update collection filter changes multi).1.written fates [] := by
  obtain ⟨fates, found, reasons, left, changed⟩ :=
    fates_updateDocuments filter changes multi (s.documents collection)
  rw [update_state, written_update]
  refine ⟨fates, ⟨⟨reasons, rfl⟩, found, ?_, ?_, ?_, ?_, ⟨rfl, rfl⟩⟩⟩
  · rw [List.append_nil, ← left]
    exact documents_setDocuments s collection _
  · have count := length_of_changes changed
    rwa [List.length_map] at count
  · rw [changesOf, ← changed, List.map_nil, List.append_nil]
    rfl
  · intro c other
    exact documents_setDocuments_of_ne s collection _ other

end

/-! ## Deletes -/

/-- What a delete does to documents, if no document is at fault. -/
theorem fates_splitMatching {filter : Json} {multi : Bool} {docs kept removed : List Json}
    (h : splitMatching filter multi docs = .ok (kept, removed)) :
    ∃ fates : List (Json × Fate), docs = fates.map (·.1) ∧
      (∀ f ∈ fates, f.2.DeletedBy filter f.1) ∧
      kept = fates.filterMap (fun f => f.2.result? f.1) ∧
      removed.map (fun d => (idOf d, Change.removed)) =
        fates.filterMap (fun f => f.2.change? f.1) := by
  induction docs generalizing kept removed with
  | nil =>
    cases h
    exact ⟨[], rfl, by simp, rfl, rfl⟩
  | cons d docs ih =>
    obtain ⟨selected, hs, h⟩ := bind_eq_ok.1 h
    split at h
    · rename_i yes
      subst yes
      split at h
      · obtain ⟨⟨kept', removed'⟩, later, h⟩ := bind_eq_ok.1 h
        cases h
        obtain ⟨fates, found, reasons, left, changed⟩ := ih later
        exact ⟨(d, .removed) :: fates, by simp [found], List.forall_mem_cons.2 ⟨hs, reasons⟩,
          by simp [left, Fate.result?], by simp [changed, Fate.change?]⟩
      · cases h
        refine ⟨(d, .removed) :: keep docs, by simp,
          List.forall_mem_cons.2 ⟨hs, forall_mem_keep _ fun _ => trivial⟩, ?_, ?_⟩
        · exact (result_keep docs).symm
        · rw [List.filterMap_cons, change_keep]
          rfl
    · obtain ⟨⟨kept', removed'⟩, later, h⟩ := bind_eq_ok.1 h
      cases h
      obtain ⟨fates, found, reasons, left, changed⟩ := ih later
      exact ⟨(d, .kept) :: fates, by simp [found], List.forall_mem_cons.2 ⟨trivial, reasons⟩,
        by simp [left, Fate.result?], by simp [changed, Fate.change?]⟩

theorem delete_accounted (s : Store) (collection : String) (filter : Json) (multi : Bool) :
    ∃ fates, Accounted (.delete collection filter multi) s (s.delete collection filter multi).2
      (s.delete collection filter multi).1.written fates [] := by
  unfold delete
  split
  · -- A fault leaves everything.
    refine ⟨keep (s.documents collection), ⟨⟨forall_mem_keep _ fun _ => trivial, rfl⟩,
      (map_keep _).symm, ?_, ?_, ?_, fun _ _ => rfl, ⟨rfl, rfl⟩⟩⟩
    · rw [result_keep, List.append_nil]
      rfl
    · rw [touched_keep]
      rfl
    · rw [changesOf, change_keep]
      simp
  · rename_i kept removed split
    obtain ⟨fates, found, reasons, left, changed⟩ := fates_splitMatching split
    refine ⟨fates, ⟨⟨reasons, rfl⟩, found, ?_, ?_, ?_, ?_, ⟨rfl, rfl⟩⟩⟩
    · rw [List.append_nil, ← left]
      exact documents_setDocuments s collection kept
    · have count := length_of_changes changed
      rwa [List.length_map] at count
    · rw [changesOf, ← changed, List.map_nil, List.append_nil]
      rfl
    · intro c other
      exact documents_setDocuments_of_ne s collection kept other

/-! ## Commands -/

/-- What a command does is not changed by the note that it arrived. -/
theorem Accounted.of_arrival {command : Command} {s after : Store} {n : Nat}
    {fates : List (Json × Fate)} {added : List Json}
    (h : Accounted command { s with commands := s.commands + 1 } after n fates added) :
    Accounted command s after n fates added :=
  ⟨h.justified, h.found, h.left, h.count, h.events, h.others, h.cursors⟩

/-- Every write accounts for what it did, whichever it is. -/
theorem exists_accounted {s : Store} {command : Command} (quiet : s.faults = [])
    (write : command.isWrite = true) :
    ∃ fates added, Accounted command s (s.execute command).2 (s.execute command).1.written
        fates added ∧
      ∀ ids, (s.execute command).1 = .ok (.inserted ids) → ids = added.map idOf := by
  rw [execute_of_quiet quiet]
  cases command with
  | insert collection docs ordered =>
    obtain ⟨added, account, ids⟩ := insert_accounted { s with commands := s.commands + 1 }
      collection docs ordered
    exact ⟨_, added, account.of_arrival, ids⟩
  | update collection filter changes multi =>
    obtain ⟨fates, account⟩ := update_accounted { s with commands := s.commands + 1 }
      collection filter changes multi
    refine ⟨fates, [], account.of_arrival, fun ids same => ?_⟩
    simp only [perform, update] at same
    split at same <;> cases same
  | delete collection filter multi =>
    obtain ⟨fates, account⟩ := delete_accounted { s with commands := s.commands + 1 }
      collection filter multi
    refine ⟨fates, [], account.of_arrival, fun ids same => ?_⟩
    simp only [perform, delete] at same
    split at same <;> cases same
  | _ => cases write

/-- The response to a write counts the documents written, and carries nothing if it failed. -/
theorem ofResult_execute {s : Store} {command : Command} (quiet : s.faults = [])
    (write : command.isWrite = true) :
    (Response.ofResult (s.execute command).1).count = (s.execute command).1.written ∧
      ((Response.ofResult (s.execute command).1).success = false →
        (Response.ofResult (s.execute command).1).payload = .empty) := by
  -- A write is answered as a write.
  have reply : ∀ r, (s.execute command).1 = .ok r →
      (∃ ids, r = .inserted ids) ∨ (∃ m n, r = .updated m n) ∨ ∃ n, r = .deleted n := by
    rw [execute_of_quiet quiet]
    intro r same
    cases command with
    | insert collection docs ordered =>
      simp only [perform, insert] at same
      split at same <;> cases same
      exact .inl ⟨_, rfl⟩
    | update collection filter changes multi =>
      simp only [perform, update] at same
      split at same <;> cases same
      exact .inr (.inl ⟨_, _, rfl⟩)
    | delete collection filter multi =>
      simp only [perform, delete] at same
      split at same <;> cases same
      exact .inr (.inr ⟨_, rfl⟩)
    | _ => cases write
  cases outcome : (s.execute command).1 with
  | error e => exact ⟨rfl, fun _ => rfl⟩
  | ok r =>
    refine ⟨?_, fun failed => ?_⟩
    · rcases reply r outcome with ⟨ids, rfl⟩ | ⟨m, n, rfl⟩ | ⟨n, rfl⟩ <;> rfl
    · rcases reply r outcome with ⟨ids, rfl⟩ | ⟨m, n, rfl⟩ | ⟨n, rfl⟩ <;> cases failed

/-- **Every write accounts for what it did.** With no fault injected, the number that the outcome
carries is the number of documents added, replaced or removed, each for a reason that the command
gives; all other documents, collections and cursors are as before, and the log has grown by one
event for each document written, in the order of the collection. The response counts the same
number, and carries nothing if the write failed. -/
theorem execute_accounted {s : Store} {command : Command} (quiet : s.faults = [])
    (write : command.isWrite = true) :
    ∃ fates added, Accounted command s (s.execute command).2 (s.execute command).1.written
        fates added ∧
      (∀ ids, (s.execute command).1 = .ok (.inserted ids) → ids = added.map idOf) ∧
      (s.execute command).2.events.length = s.events.length + (s.execute command).1.written ∧
      (Response.ofResult (s.execute command).1).count = (s.execute command).1.written ∧
      ((Response.ofResult (s.execute command).1).success = false →
        (Response.ofResult (s.execute command).1).payload = .empty) := by
  obtain ⟨fates, added, account, ids⟩ := exists_accounted quiet write
  exact ⟨fates, added, account, ids, account.events_length, ofResult_execute quiet write⟩

/-- A batch that stops at a value that is no document. -/
theorem execute_accounted_batch :
    ∃ fates added, Accounted (.insert "c" [.obj [("_id", .int 1)], .null, .obj []] true)
      { name := "shop" } (Store.execute { name := "shop" }
        (.insert "c" [.obj [("_id", .int 1)], .null, .obj []] true)).2 1 fates added := by
  obtain ⟨fates, added, account, -⟩ := @execute_accounted { name := "shop" }
    (.insert "c" [.obj [("_id", .int 1)], .null, .obj []] true) rfl rfl
  exact ⟨fates, added, account⟩

end Store

end DocStore
