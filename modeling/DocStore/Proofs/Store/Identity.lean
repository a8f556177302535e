import DocStore.Proofs.Json.Equality
import DocStore.Proofs.Store.Accounting
import DocStore.Proofs.Update.Identifier
import Mathlib

/-!
# Documents keep their identity

Whatever commands a store executes, each collection is named by a list of identifiers
(`Store.Named`): one for each document, no two of them equal. Inserts add to the list, deletes
thin it out, and updates leave it alone (`Store.identified_run`), as long as they name no path
below `_id`. An update that does can give two documents one identifier.
-/

namespace DocStore.Store

/-- Every document has an identifier, and no two identifiers are equal. -/
structure Identified (docs : List Json) : Prop where
  present : ∀ d ∈ docs, ∃ id, d.get? "_id" = some id
  distinct : docs.Pairwise fun d e =>
    (idOf d).equals (idOf e) = false ∧ (idOf e).equals (idOf d) = false

/-- Documents have these identifiers, which are allowed and of which no two are equal. -/
structure Named (allowed : Json → Prop) (ids docs : List Json) : Prop where
  keyed : List.Forall₂ Json.Keyed ids docs
  allowed : ∀ id ∈ ids, allowed id
  distinct : ids.Pairwise fun i j => i.equals j = false ∧ j.equals i = false

section

variable {allowed : Json → Prop} {ids docs : List Json}

theorem Named.map_get? (h : Named allowed ids docs) :
    docs.map (·.get? "_id") = ids.map some := by
  have keyed := h.keyed
  clear h
  induction keyed with
  | nil => rfl
  | cons here _ ih => rw [List.map_cons, List.map_cons, here.get?, ih]

theorem Named.map_idOf (h : Named allowed ids docs) : docs.map idOf = ids := by
  have same : docs.map idOf = (docs.map (·.get? "_id")).map (·.getD .null) := by
    simp [idOf, Function.comp_def]
  rw [same, h.map_get?, List.map_map]
  exact List.map_id' ids

theorem Named.identified (h : Named allowed ids docs) : Identified docs := by
  refine ⟨fun d hd => ?_, ?_⟩
  · obtain ⟨id, -, keyed⟩ := Fallible.exists_of_mem h.keyed hd
    exact ⟨id, keyed.get?⟩
  · have distinct := h.distinct
    rw [← h.map_idOf, List.pairwise_map] at distinct
    exact distinct

end

/-! ## Inserts -/

theorem keyed_identify {fs : Fields} (h : (Fields.keys fs).Nodup) (ids : IdSupply) :
    Json.Keyed (Fields.identify false fs ids).1 (.obj (Fields.identify false fs ids).2.1) := by
  unfold Fields.identify
  cases hid : Fields.get? fs "_id" with
  | some id => exact .obj h hid
  | none =>
    have fresh : "_id" ∉ Fields.keys fs := by
      intro hit
      obtain ⟨⟨_, v⟩, hv, rfl⟩ := List.mem_map.1 hit
      rw [(Fields.get?_eq_some_iff h).2 hv] at hid
      cases hid
    refine .obj ?_ ?_
    · change (Fields.keys (fs ++ [("_id", .str ids.take.1)])).Nodup
      rw [Fields.keys, List.map_append]
      exact List.Nodup.append h (List.nodup_singleton _) (by simpa [Fields.keys] using fresh)
    · rw [Fields.get?] at hid ⊢
      simp [List.lookup_append, hid]

section

variable {allowed : Json → Prop} (sound : ∀ id, allowed id → id.WellFormed)
  (generated : ∀ s, allowed (.str s))

include sound generated

/-- A document enters a collection under an identifier that no document has. -/
theorem named_insertOne (database collection : String) {existing ids : List Json} {r : InsertRun}
    {doc : Json} (h : Named allowed ids (existing ++ r.stored.map (·.2))) (wf : doc.WellFormed)
    (given : ∀ id, doc.get? "_id" = some id → allowed id) :
    ∃ ids, Named allowed ids
      (existing ++ (insertOne database collection existing r doc).stored.map (·.2)) := by
  unfold insertOne
  split
  · rename_i fs
    dsimp only
    split
    · exact ⟨ids, h⟩
    · rename_i unused
      have keyed := keyed_identify wf.nodup_keys r.ids
      have ok : allowed (Fields.identify false fs r.ids).1 := by
        unfold Fields.identify
        split
        · rename_i id hid
          exact given id hid
        · exact generated _
      have fresh : ∀ i ∈ ids, i.equals (Fields.identify false fs r.ids).1 = false := by
        intro i hi
        obtain ⟨d, hd, named⟩ := Fallible.exists_of_mem h.keyed.flip hi
        simp only [hasId, List.any_eq_true, not_exists, not_and, Bool.not_eq_true] at unused
        have := unused d hd
        rwa [named.get?] at this
      refine ⟨ids ++ [(Fields.identify false fs r.ids).1], ?_, ?_, ?_⟩
      · rw [List.map_append, ← List.append_assoc]
        exact List.rel_append h.keyed (.cons keyed .nil)
      · exact List.forall_mem_append.2 ⟨h.allowed, by simpa using ok⟩
      · refine List.pairwise_append.2 ⟨h.distinct, by simp, fun i hi j hj => ?_⟩
        obtain rfl := List.mem_singleton.1 hj
        refine ⟨fresh i hi, Bool.eq_false_iff.2 fun equal => ?_⟩
        have back := Json.equals_symm (sound _ ok) (sound _ (h.allowed i hi)) equal
        rw [fresh i hi] at back
        cases back
  · exact ⟨ids, h⟩

theorem named_insertBatch {database collection : String} {existing : List Json} {ordered : Bool}
    {docs : List Json} {r : InsertRun} {ids : List Json}
    (h : Named allowed ids (existing ++ r.stored.map (·.2))) (wf : ∀ d ∈ docs, d.WellFormed)
    (given : ∀ d ∈ docs, ∀ id, d.get? "_id" = some id → allowed id) :
    ∃ ids, Named allowed ids
      (existing ++ (insertBatch database collection existing ordered docs r).stored.map (·.2)) := by
  induction docs generalizing r ids with
  | nil => exact ⟨ids, h⟩
  | cons doc docs ih =>
    obtain ⟨wf, wfs⟩ := List.forall_mem_cons.1 wf
    obtain ⟨here, there⟩ := List.forall_mem_cons.1 given
    obtain ⟨ids', h'⟩ := named_insertOne sound generated database collection h wf here
    rw [insertBatch]
    split
    · exact ⟨ids', h'⟩
    · exact ih h' wfs there

theorem named_insert {s : Store} {collection : String} {docs : List Json} {ordered : Bool}
    {ids : List Json} (h : Named allowed ids (s.documents collection))
    (wf : ∀ d ∈ docs, d.WellFormed)
    (given : ∀ d ∈ docs, ∀ id, d.get? "_id" = some id → allowed id) :
    ∃ ids, Named allowed ids ((s.insert collection docs ordered).2.documents collection) := by
  have left : (s.insert collection docs ordered).2.documents collection =
      s.documents collection ++ (insertBatch s.name collection (s.documents collection) ordered
        docs { ids := s.ids }).stored.map (·.2) := by
    unfold insert
    dsimp only
    split <;> exact documents_setDocuments s collection _
  rw [left]
  exact named_insertBatch sound generated (r := { ids := s.ids }) (by simpa using h) wf given

end

/-! ## Updates and deletes -/

section

variable {allowed : Json → Prop}

theorem keyed_of_updated {filter changes : Json} {ids : List Json} {fates : List (Json × Fate)}
    (keyed : List.Forall₂ Json.Keyed ids (fates.map (·.1)))
    (spared : Update.ReachesId changes → ∀ id ∈ ids, id.isScalar = true)
    (reasons : ∀ f ∈ fates, f.2.UpdatedBy filter changes f.1) :
    List.Forall₂ Json.Keyed ids (fates.filterMap fun f => f.2.result? f.1) := by
  induction fates generalizing ids with
  | nil => exact keyed
  | cons f fates ih =>
    cases keyed with
    | @cons id _ ids _ here there =>
      obtain ⟨d, fate⟩ := f
      obtain ⟨reason, reasons⟩ := List.forall_mem_cons.1 reasons
      have later := ih there (fun hit i hi => spared hit i (List.mem_cons_of_mem _ hi)) reasons
      cases fate with
      | kept => exact .cons here later
      | removed => exact reason.elim
      | replaced next =>
        obtain ⟨-, applied, -⟩ := reason
        exact .cons (Update.keyed_apply here (fun hit => spared hit id (by simp)) applied) later

/-- An update leaves the identifiers of its collection alone. -/
theorem named_update {s : Store} {collection : String} {filter changes : Json} {multi : Bool}
    {ids : List Json} (h : Named allowed ids (s.documents collection))
    (spared : Update.ReachesId changes → ∀ id ∈ ids, id.isScalar = true) :
    Named allowed ids ((s.update collection filter changes multi).2.documents collection) := by
  obtain ⟨fates, account⟩ := update_accounted s collection filter changes multi
  have left := account.left
  rw [List.append_nil] at left
  refine ⟨?_, h.allowed, h.distinct⟩
  rw [show (Command.update collection filter changes multi).collection = collection from rfl] at left
  rw [left]
  refine keyed_of_updated ?_ spared account.justified.1
  rw [← account.found]
  exact h.keyed

theorem keyed_of_deleted {filter : Json} {ids : List Json} {fates : List (Json × Fate)}
    (keyed : List.Forall₂ Json.Keyed ids (fates.map (·.1)))
    (reasons : ∀ f ∈ fates, f.2.DeletedBy filter f.1) :
    ∃ left, left.Sublist ids ∧
      List.Forall₂ Json.Keyed left (fates.filterMap fun f => f.2.result? f.1) := by
  induction fates generalizing ids with
  | nil => exact ⟨ids, .refl ids, keyed⟩
  | cons f fates ih =>
    cases keyed with
    | @cons id _ ids _ here there =>
      obtain ⟨d, fate⟩ := f
      obtain ⟨reason, reasons⟩ := List.forall_mem_cons.1 reasons
      obtain ⟨left, sublist, later⟩ := ih there reasons
      cases fate with
      | kept => exact ⟨id :: left, sublist.cons_cons id, .cons here later⟩
      | removed => exact ⟨left, sublist.cons id, later⟩
      | replaced next => exact reason.elim

theorem named_delete {s : Store} {collection : String} {filter : Json} {multi : Bool}
    {ids : List Json} (h : Named allowed ids (s.documents collection)) :
    ∃ ids, Named allowed ids ((s.delete collection filter multi).2.documents collection) := by
  obtain ⟨fates, account⟩ := delete_accounted s collection filter multi
  have keyed := h.keyed
  rw [show s.documents collection = _ from account.found] at keyed
  obtain ⟨ids', sublist, keyed'⟩ := keyed_of_deleted keyed account.justified.1
  refine ⟨ids', ?_, fun id hid => h.allowed id (sublist.subset hid), h.distinct.sublist sublist⟩
  rw [show (s.delete collection filter multi).2.documents collection = _ from account.left,
    List.append_nil]
  exact keyed'

end

/-! ## Runs -/

/-- A store after some commands. -/
def run (s : Store) (commands : List Command) : Store :=
  commands.foldl (fun s command => (s.execute command).2) s

/-- All identifiers that come with documents inserted into a collection are scalars. -/
def ScalarIds (commands : List Command) (collection : String) : Prop :=
  ∀ docs ordered, .insert collection docs ordered ∈ commands → ∀ d ∈ docs, ∀ id,
    d.get? "_id" = some id → id.isScalar = true

/-- The documents inserted repeat no key, and the updates name no path below an identifier that
may have parts. -/
structure Admissible (commands : List Command) : Prop where
  wellFormed : ∀ collection docs ordered, .insert collection docs ordered ∈ commands →
    ∀ d ∈ docs, d.WellFormed
  spared : ∀ collection filter changes multi, .update collection filter changes multi ∈ commands →
    Update.ReachesId changes → ScalarIds commands collection

/-- The identifiers that can come about in a collection. -/
def AllowedId (commands : List Command) (collection : String) (id : Json) : Prop :=
  id.WellFormed ∧ (ScalarIds commands collection → id.isScalar = true)

/-- Every collection is named by identifiers that are allowed. -/
def AllNamed (commands : List Command) (s : Store) : Prop :=
  ∀ collection, ∃ ids, Named (AllowedId commands collection) ids (s.documents collection)

section

variable {commands : List Command}

theorem Admissible.spares (h : Admissible commands) {collection : String} {filter changes : Json}
    {multi : Bool} (mem : .update collection filter changes multi ∈ commands) {ids docs : List Json}
    (named : Named (AllowedId commands collection) ids docs) :
    Update.ReachesId changes → ∀ id ∈ ids, id.isScalar = true := fun hit id hid =>
  (named.allowed id hid).2 (h.spared collection filter changes multi mem hit)

theorem allNamed_perform (h : Admissible commands) {command : Command} (mem : command ∈ commands)
    {s : Store} (named : AllNamed commands s) : AllNamed commands (s.perform command).2 := by
  intro c
  obtain ⟨ids, here⟩ := named c
  cases command with
  | insert collection docs ordered =>
    by_cases same : c = collection
    · subst same
      refine named_insert (fun _ allowed => allowed.1) (fun text => ⟨.str text, fun _ => rfl⟩) here
        (h.wellFormed _ _ _ mem) fun d hd id hid => ?_
      cases d with
      | obj fs =>
        exact ⟨(h.wellFormed _ _ _ mem _ hd).of_get? hid, fun scalar => scalar _ _ mem _ hd id hid⟩
      | _ => cases hid
    · obtain ⟨added, account, -⟩ := insert_accounted s collection docs ordered
      exact ⟨ids, by rw [perform, account.others c same]; exact here⟩
  | update collection filter changes multi =>
    by_cases same : c = collection
    · subst same
      exact ⟨ids, named_update here (h.spares mem here)⟩
    · obtain ⟨fates, account⟩ := update_accounted s collection filter changes multi
      exact ⟨ids, by rw [perform, account.others c same]; exact here⟩
  | delete collection filter multi =>
    by_cases same : c = collection
    · subst same
      exact named_delete here
    · obtain ⟨fates, account⟩ := delete_accounted s collection filter multi
      exact ⟨ids, by rw [perform, account.others c same]; exact here⟩
  | _ => exact ⟨ids, by rw [perform_of_not_isWrite s rfl]; exact here⟩

/-- **One command keeps all collections named.** -/
theorem allNamed_execute (h : Admissible commands) {command : Command} (mem : command ∈ commands)
    {s : Store} (named : AllNamed commands s) : AllNamed commands (s.execute command).2 := by
  cases faults : s.faults with
  | nil =>
    rw [execute_of_quiet faults]
    exact allNamed_perform h mem named
  | cons fault later =>
    rw [execute_of_fault faults]
    exact named

/-- **Every run keeps all collections named.** -/
theorem allNamed_run (h : Admissible commands) {s : Store} (named : AllNamed commands s)
    {part : List Command} (sub : part ⊆ commands) : AllNamed commands (s.run part) := by
  induction part generalizing s with
  | nil => exact named
  | cons command part ih =>
    obtain ⟨mem, sub⟩ := List.cons_subset.1 sub
    exact ih (allNamed_execute h mem named) sub

theorem allNamed_of_empty {s : Store} (empty : s.collections = []) : AllNamed commands s := by
  intro collection
  refine ⟨[], ?_, by simp, .nil⟩
  simp [documents, empty, Dictionary.get?]

/-- An update of a named collection leaves its identifiers. -/
theorem map_get?_execute_update (h : Admissible commands) {s : Store} (named : AllNamed commands s)
    {collection : String} {filter changes : Json} {multi : Bool}
    (mem : .update collection filter changes multi ∈ commands) :
    ((s.execute (.update collection filter changes multi)).2.documents collection).map
      (·.get? "_id") = (s.documents collection).map (·.get? "_id") := by
  obtain ⟨ids, here⟩ := named collection
  cases faults : s.faults with
  | nil =>
    rw [execute_of_quiet faults]
    have after : Named (AllowedId commands collection) ids
        ((Store.update { s with commands := s.commands + 1 } collection filter changes
          multi).2.documents collection) := named_update here (h.spares mem here)
    exact after.map_get?.trans here.map_get?.symm
  | cons fault later =>
    rw [execute_of_fault faults]
    rfl

end

/-- **Documents keep their identity, unless an update names a path below it.** From an empty store
on, along every run of commands whose updates name no path below an identifier that may have
parts, every document has an identifier, no two in a collection are equal, and an update leaves
the identifiers as they are. A path below an identifier is written into the identifier. -/
theorem identified_run {s : Store} (empty : s.collections = []) {commands : List Command}
    (admissible : Admissible commands) :
    (∀ earlier later, commands = earlier ++ later →
        ∀ collection, Identified ((s.run earlier).documents collection)) ∧
      (∀ earlier later collection filter changes multi,
        commands = earlier ++ .update collection filter changes multi :: later →
        (((s.run earlier).execute (.update collection filter changes multi)).2.documents
          collection).map (·.get? "_id") =
            ((s.run earlier).documents collection).map (·.get? "_id")) ∧
      ∀ (fs : Fields) (id id' value : Json) (field segment : String) (rest : Path),
        Path.ofString field = "_id" :: segment :: rest → Fields.get? fs "_id" = some id →
        Json.setSegments? value (segment :: rest) id = some id' →
        ∃ d, Update.apply (.obj fs) (.obj [("$set", .obj [(field, value)])]) = .ok d ∧
          d.get? "_id" = some id' := by
  refine ⟨?_, ?_, fun _ _ _ _ _ _ _ => Update.apply_set_below⟩
  · rintro earlier later rfl collection
    obtain ⟨ids, named⟩ := allNamed_run admissible (allNamed_of_empty empty)
      (List.subset_append_left earlier later) collection
    exact named.identified
  · rintro earlier later collection filter changes multi rfl
    have before := allNamed_run admissible (allNamed_of_empty empty)
      (List.subset_append_left earlier _)
    exact map_get?_execute_update admissible before (by simp)

/-- A run with a path below identifiers that are scalars. -/
theorem identified_run_scalar : Identified ((run {}
    [.insert "c" [.obj [("_id", .str "a")], .obj []] false,
      .update "c" (.obj []) (.obj [("$unset", .obj [("_id.x", .null)])]) true]).documents "c") := by
  refine (identified_run rfl ⟨?_, ?_⟩).1 _ [] (List.append_nil _).symm "c"
  · intro collection docs ordered mem d hd
    obtain ⟨rfl, rfl, rfl⟩ : collection = "c" ∧ docs = [.obj [("_id", .str "a")], .obj []] ∧
        ordered = false := by simpa using mem
    rcases List.mem_pair.1 hd with rfl | rfl
    · exact .obj (by simp [Fields.keys]) (by simpa using .str "a")
    · exact .obj .nil (by simp)
  · rintro collection - - - - - docs ordered mem d hd id hid
    obtain ⟨rfl, rfl, rfl⟩ : collection = "c" ∧ docs = [.obj [("_id", .str "a")], .obj []] ∧
        ordered = false := by simpa using mem
    rcases List.mem_pair.1 hd with rfl | rfl <;> cases hid
    rfl

/-- An update through a path below an identifier, which gives it the value of another. -/
theorem not_identified_of_path_below : ¬ Identified ((run {}
    [.insert "c" [.obj [("_id", .obj [("a", .str "x")])], .obj [("_id", .obj [("a", .str "y")])]] true,
      .update "c" (.obj [("_id", .obj [("a", .str "y")])])
        (.obj [("$set", .obj [("_id.a", .str "x")])]) false]).documents "c") := by
  have docs : (run {}
      [.insert "c" [.obj [("_id", .obj [("a", .str "x")])], .obj [("_id", .obj [("a", .str "y")])]] true,
        .update "c" (.obj [("_id", .obj [("a", .str "y")])])
          (.obj [("$set", .obj [("_id.a", .str "x")])]) false]).documents "c" =
      [.obj [("_id", .obj [("a", .str "x")])], .obj [("_id", .obj [("a", .str "x")])]] := by
    cbv
  have equal : (Json.obj [("a", .str "x")]).equals (.obj [("a", .str "x")]) = true := by cbv
  rw [docs]
  intro h
  obtain ⟨different, -⟩ := (List.pairwise_cons.1 h.distinct).1 _ (List.mem_singleton_self _)
  exact absurd (equal.symm.trans different) (by decide)

end DocStore.Store
