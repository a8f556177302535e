import DocStore.Proofs.Store.Activity
import DocStore.Proofs.Store.Identity
import Mathlib

/-!
# The log is a journal

Replaying the events of the log from empty collections gives the documents of the store, in their
order (`Store.replay_events`). An event names a document by its identifier, so that this rests on
identifiers being told apart and on updates leaving them alone; it holds of stores whose documents
came by commands, with scalars as identifiers.
-/

namespace DocStore

theorem Json.equals_self {v : Json} (h : v.isScalar = true) : v.equals v = true := by
  refine equals_refl ?_
  cases v with
  | arr xs => cases h
  | obj fs => cases h
  | null => exact .null
  | bool b => exact .bool b
  | num n => exact .num n
  | str s => exact .str s

namespace Store

/-! ## Replaying -/

/-- Whether a document has an identifier that equals a given one. -/
def carries (id doc : Json) : Bool := (doc.get? "_id").any (·.equals id)

/-- The documents of a collection after an event, as the document of the event says: one is added
at the end, or the one with the identifier is replaced or removed. -/
def replayOn (event : Json) (docs : List Json) : List Json :=
  match event.get? "operationType", (event.get? "documentKey").bind (·.get? "_id"),
    event.get? "fullDocument" with
  | some (.str "insert"), _, some doc => docs ++ [doc]
  | some (.str "update"), some id, some doc => docs.map fun d => if carries id d then doc else d
  | some (.str "delete"), some id, _ => docs.filter fun d => !carries id d
  | _, _, _ => docs

/-- The documents of all collections after an event. -/
def replay (collections : String → List Json) (event : Json) : String → List Json :=
  match (event.get? "ns").bind (·.get? "coll") with
  | some (.str c) => Function.update collections c (replayOn event (collections c))
  | _ => collections

/-- The documents of a collection after a change of the document with an identifier. -/
def redo (docs : List Json) (change : Json × Change) : List Json :=
  match change.2 with
  | .inserted doc => docs ++ [doc]
  | .updated doc => docs.map fun d => if carries change.1 d then doc else d
  | .removed => docs.filter fun d => !carries change.1 d

/-- The document of an event says all that it takes to replay it. -/
theorem replay_toJson (collections : String → List Json) (e : ChangeEvent) :
    replay collections e.toJson =
      Function.update collections e.collection (redo (collections e.collection) (e.id, e.change)) := by
  obtain ⟨database, collection, id, change, time⟩ := e
  cases change <;>
    simp [replay, replayOn, redo, ChangeEvent.toJson, Json.get?, Fields.get?, List.lookup,
      Change.name, Change.document?]

/-- Events of one collection replay as their changes. -/
theorem foldl_replay {α : Type} (collection : String) (change : α → Json × Change)
    (event : Nat → α → ChangeEvent)
    (same : ∀ i x, (event i x).collection = collection ∧
      ((event i x).id, (event i x).change) = change x)
    (xs : List α) (collections : String → List Json) :
    ((xs.mapIdx event).map ChangeEvent.toJson).foldl replay collections =
      Function.update collections collection
        ((xs.map change).foldl redo (collections collection)) := by
  induction xs generalizing event collections with
  | nil => simp
  | cons x xs ih =>
    obtain ⟨here, this⟩ := same 0 x
    rw [List.mapIdx_cons, List.map_cons, List.foldl_cons, replay_toJson, here, this,
      ih (fun i => event (i + 1)) (fun i => same (i + 1))]
    simp

/-! ## Documents told apart by their identifiers -/

/-- Every document carries its identifier, and no other document does. -/
structure Discernible (docs : List Json) : Prop where
  own : ∀ d ∈ docs, carries (idOf d) d = true
  apart : docs.Pairwise fun d e => carries (idOf d) e = false ∧ carries (idOf e) d = false

section

variable {front rest docs ids : List Json} {d next : Json} {allowed : Json → Prop}

theorem carries_of_get? {id i : Json} (h : d.get? "_id" = some i) : carries id d = i.equals id := by
  simp [carries, h]

theorem Named.discernible (h : Named allowed ids docs) (self : ∀ id ∈ ids, id.equals id = true) :
    Discernible docs := by
  have identified := h.identified
  constructor
  · intro d hd
    obtain ⟨id, hid, keyed⟩ := Fallible.exists_of_mem h.keyed hd
    rw [carries_of_get? keyed.get?, idOf, keyed.get?]
    exact self id hid
  · refine identified.distinct.imp_of_mem fun {d e} hd he distinct => ?_
    obtain ⟨i, hi⟩ := identified.present d hd
    obtain ⟨j, hj⟩ := identified.present e he
    rw [carries_of_get? hj, carries_of_get? hi]
    simpa [idOf, hi, hj, and_comm] using distinct

/-- Beside a document, no document carries its identifier. -/
theorem Discernible.others (h : Discernible (front ++ d :: rest)) :
    (∀ e ∈ front, carries (idOf d) e = false) ∧ ∀ e ∈ rest, carries (idOf d) e = false := by
  obtain ⟨-, later, across⟩ := List.pairwise_append.1 h.apart
  exact ⟨fun e he => (across e he d (List.mem_cons_self ..)).2,
    fun e he => ((List.pairwise_cons.1 later).1 e he).1⟩

/-- A document may be replaced by another with its identifier. -/
theorem Discernible.replace (h : Discernible (front ++ d :: rest))
    (same : next.get? "_id" = d.get? "_id") : Discernible (front ++ next :: rest) := by
  have id : idOf next = idOf d := by rw [idOf, idOf, same]
  have carried (i : Json) : carries i next = carries i d := by rw [carries, carries, same]
  obtain ⟨own, apart⟩ := h
  constructor
  · simpa [id, carried, or_imp, forall_and] using own
  · simpa [List.pairwise_append, id, carried, or_imp, forall_and] using apart

theorem Discernible.remove (h : Discernible (front ++ d :: rest)) : Discernible (front ++ rest) := by
  have sublist : (front ++ rest).Sublist (front ++ d :: rest) :=
    (List.sublist_cons_self d rest).append_left front
  exact ⟨fun e he => h.own e (sublist.subset he), h.apart.sublist sublist⟩

/-- An update is redone on the document that it changed. -/
theorem redo_updated (h : Discernible (front ++ d :: rest)) :
    redo (front ++ d :: rest) (idOf d, .updated next) = front ++ next :: rest := by
  obtain ⟨before, later⟩ := h.others
  have own : carries (idOf d) d = true := h.own d (by simp)
  have kept {docs : List Json} (others : ∀ e ∈ docs, carries (idOf d) e = false) :
      (docs.map fun e => if carries (idOf d) e then next else e) = docs := by
    refine (List.map_congr_left fun e he => ?_).trans (List.map_id' docs)
    rw [others e he]
    rfl
  simp only [redo, List.map_append, List.map_cons, kept before, kept later, own, if_true]

/-- A removal is redone on the document that was removed. -/
theorem redo_removed (h : Discernible (front ++ d :: rest)) :
    redo (front ++ d :: rest) (idOf d, .removed) = front ++ rest := by
  obtain ⟨before, later⟩ := h.others
  have own : carries (idOf d) d = true := h.own d (by simp)
  have kept {docs : List Json} (others : ∀ e ∈ docs, carries (idOf d) e = false) :
      (docs.filter fun e => !carries (idOf d) e) = docs := by
    refine List.filter_eq_self.2 fun e he => ?_
    rw [others e he]
    rfl
  simp only [redo, List.filter_append, kept before]
  rw [List.filter_cons_of_neg (by simp [own]), kept later]

end

/-- **Redoing the changes of a collection gives what became of its documents.** -/
theorem foldl_redo_fates (front : List Json) {fates : List (Json × Fate)}
    (h : Discernible (front ++ fates.map (·.1)))
    (spared : ∀ f ∈ fates, ∀ next, f.2 = .replaced next → next.get? "_id" = f.1.get? "_id") :
    (fates.filterMap fun f => f.2.change? f.1).foldl redo (front ++ fates.map (·.1)) =
      front ++ fates.filterMap fun f => f.2.result? f.1 := by
  induction fates generalizing front with
  | nil => rfl
  | cons f fates ih =>
    obtain ⟨d, fate⟩ := f
    obtain ⟨here, there⟩ := List.forall_mem_cons.1 spared
    cases fate with
    | kept =>
      have later := ih (front ++ [d]) (by simpa using h) there
      simpa [Fate.change?, Fate.result?] using later
    | replaced next =>
      have same := here next rfl
      have id : idOf next = idOf d := by rw [idOf, idOf, same]
      have later := ih (front ++ [next]) (by simpa using h.replace same) there
      change (fates.filterMap fun f => f.2.change? f.1).foldl redo
          (redo (front ++ d :: fates.map (·.1)) (idOf next, .updated next)) =
        front ++ next :: fates.filterMap fun f => f.2.result? f.1
      rw [id, redo_updated h]
      simpa using later
    | removed =>
      have later := ih front h.remove there
      change (fates.filterMap fun f => f.2.change? f.1).foldl redo
          (redo (front ++ d :: fates.map (·.1)) (idOf d, .removed)) =
        front ++ fates.filterMap fun f => f.2.result? f.1
      rw [redo_removed h]
      exact later

/-- Added documents are redone one by one. -/
theorem foldl_redo_added (docs added : List Json) :
    (added.map fun d => (idOf d, Change.inserted d)).foldl redo docs = docs ++ added := by
  induction added generalizing docs with
  | nil => exact (List.append_nil docs).symm
  | cons d added ih =>
    rw [List.map_cons, List.foldl_cons, ih]
    simp [redo]

/-! ## Runs -/

/-- The commands among what happens to a store. -/
def commandsOf (activities : List Activity) : List Command :=
  activities.filterMap fun
    | .execute command => some command
    | _ => none

theorem mem_commandsOf {activities : List Activity} {command : Command} :
    command ∈ commandsOf activities ↔ .execute command ∈ activities := by
  unfold commandsOf
  rw [List.mem_filterMap]
  constructor
  · rintro ⟨a, ha, some⟩
    split at some
    · cases some
      exact ha
    · cases some
  · exact fun h => ⟨_, h, rfl⟩

/-- Documents come into the store by commands only; they repeat no key, and those that have an
identifier have a scalar for it. -/
structure ByCommand (activities : List Activity) : Prop where
  unseeded : ∀ collection docs, .adjust (.seed collection docs) ∉ activities
  wellFormed : ∀ collection docs ordered, .execute (.insert collection docs ordered) ∈ activities →
    ∀ d ∈ docs, d.WellFormed
  scalar : ∀ collection docs ordered, .execute (.insert collection docs ordered) ∈ activities →
    ∀ d ∈ docs, ∀ id, d.get? "_id" = some id → id.isScalar = true

/-- The log of a store replays to its documents. -/
def Journaled (s : Store) : Prop :=
  (s.events.map ChangeEvent.toJson).foldl replay (fun _ => []) = s.documents

section

variable {activities : List Activity}

theorem ByCommand.scalarIds (h : ByCommand activities) (collection : String) :
    ScalarIds (commandsOf activities) collection := fun docs ordered mem d hd id hid =>
  h.scalar collection docs ordered (mem_commandsOf.1 mem) d hd id hid

theorem ByCommand.admissible (h : ByCommand activities) : Admissible (commandsOf activities) where
  wellFormed collection docs ordered mem :=
    h.wellFormed collection docs ordered (mem_commandsOf.1 mem)
  spared collection _ _ _ _ _ := h.scalarIds collection

/-- What a command replaces keeps its identifier, if that is a scalar. -/
theorem Accounted.spares {command : Command} {s t : Store} {n : Nat} {fates : List (Json × Fate)}
    {added ids : List Json} {allowed : Json → Prop} (account : Accounted command s t n fates added)
    (named : Named allowed ids (s.documents command.collection))
    (scalar : ∀ id ∈ ids, id.isScalar = true) :
    ∀ f ∈ fates, ∀ next, f.2 = .replaced next → next.get? "_id" = f.1.get? "_id" := by
  rintro ⟨d, fate⟩ hf next rfl
  have justified := account.justified
  cases command with
  | insert collection docs ordered => cases justified.1 _ hf
  | update collection filter changes multi =>
    obtain ⟨-, applied, -⟩ := justified.1 _ hf
    have found : d ∈ s.documents collection := by
      rw [show s.documents collection = _ from account.found]
      exact List.mem_map.2 ⟨_, hf, rfl⟩
    obtain ⟨id, hid, keyed⟩ := Fallible.exists_of_mem named.keyed found
    rw [keyed.get?, (Update.keyed_apply keyed (fun _ => scalar id hid) applied).get?]
  | delete collection filter multi => cases justified.1 _ hf
  | _ => cases justified

/-- A command whose fates spare the identifiers is redone by its events. -/
theorem Journaled.accounted {command : Command} {s t : Store} {n : Nat}
    {fates : List (Json × Fate)} {added : List Json} (h : Journaled s)
    (account : Accounted command s t n fates added)
    (discernible : Discernible (s.documents command.collection))
    (spared : ∀ f ∈ fates, ∀ next, f.2 = .replaced next → next.get? "_id" = f.1.get? "_id") :
    Journaled t := by
  have redone : (changesOf fates added).foldl redo (s.documents command.collection) =
      t.documents command.collection := by
    rw [account.found] at discernible ⊢
    rw [changesOf, List.foldl_append, account.left]
    have fated := foldl_redo_fates [] discernible spared
    rw [List.nil_append, List.nil_append] at fated
    rw [fated, foldl_redo_added]
  unfold Journaled at h ⊢
  rw [account.events, List.map_append, List.foldl_append, h,
    foldl_replay command.collection id _ (fun _ _ => ⟨rfl, rfl⟩), List.map_id, redone]
  funext c
  by_cases same : c = command.collection
  · subst same
    exact Function.update_self ..
  · rw [Function.update_of_ne same]
    exact (account.others c same).symm

/-- **Whatever happens, the log stays a journal** while documents come by commands. -/
theorem journaled_after (h : ByCommand activities) {a : Activity} (mem : a ∈ activities) {s : Store}
    (named : AllNamed (commandsOf activities) s) (journaled : Journaled s) :
    AllNamed (commandsOf activities) (s.after a) ∧ Journaled (s.after a) := by
  rcases s.after_cases a with same | ⟨command, n, fates, added, rfl, account⟩ | ⟨_, _, rfl⟩
  · constructor
    · intro collection
      rw [same.documents]
      exact named collection
    · unfold Journaled
      rw [same.events, same.documents]
      exact journaled
  · have known := mem_commandsOf.2 mem
    refine ⟨allNamed_execute h.admissible known named, ?_⟩
    obtain ⟨ids, here⟩ := named command.collection
    have scalar (id : Json) (hid : id ∈ ids) : id.isScalar = true :=
      (here.allowed id hid).2 (h.scalarIds command.collection)
    exact journaled.accounted account
      (here.discernible fun id hid => Json.equals_self (scalar id hid)) (account.spares here scalar)
  · exact absurd mem (h.unseeded _ _)

/-- A run in which documents come by commands keeps the log a journal. -/
theorem journaled_afterAll (h : ByCommand activities) {part : List Activity} (sub : part ⊆ activities)
    {s : Store} (named : AllNamed (commandsOf activities) s) (journaled : Journaled s) :
    Journaled (s.afterAll part) := by
  induction part generalizing s with
  | nil => exact journaled
  | cons a part ih =>
    obtain ⟨mem, sub⟩ := List.cons_subset.1 sub
    obtain ⟨named, journaled⟩ := journaled_after h mem named journaled
    exact ih sub named journaled

/-- **The log is a faithful journal.** Whatever happens to a store that was empty, with any faults
and refusals on the way: as long as its documents come by commands, with scalars as identifiers,
replaying the log from empty collections gives every collection as it is, in its order. -/
theorem replay_events (h : ByCommand activities) {s : Store} (empty : s.collections = [])
    (fresh : s.events = []) :
    ((s.afterAll activities).events.map ChangeEvent.toJson).foldl replay (fun _ => []) =
      (s.afterAll activities).documents := by
  have start : Journaled s := by
    unfold Journaled
    rw [fresh]
    funext collection
    simp [documents, empty, Dictionary.get?]
  exact journaled_afterAll h (List.Subset.refl _) (allNamed_of_empty empty) start

end

/-- A run with a fault, a batch that stops at an identifier that is there, an update and a
removal. -/
theorem replay_events_fault :
    let activities : List Activity :=
      [.execute (.insert "c" [.obj [("_id", .int 1), ("n", .int 0)], .obj [("n", .int 1)]] true),
        .adjust (.failNext .poolExhausted),
        .execute (.delete "c" (.obj []) true),
        .execute (.insert "c" [.obj [("_id", .str "a")], .obj [("_id", .int 1)], .obj []] true),
        .execute (.update "c" (.obj []) (.obj [("$inc", .obj [("n", .int 1)])]) true),
        .execute (.delete "c" (.obj [("n", .int 2)]) false)]
    ((Store.afterAll {} activities).events.map ChangeEvent.toJson).foldl replay (fun _ => []) =
      (Store.afterAll {} activities).documents := by
  intro activities
  have inserted : ∀ collection docs ordered,
      .execute (.insert collection docs ordered) ∈ activities → ∀ d ∈ docs,
        d ∈ [.obj [("_id", .int 1), ("n", .int 0)], .obj [("n", .int 1)],
          .obj [("_id", .str "a")], .obj [("_id", .int 1)], .obj []] := by
    intro collection docs ordered mem d hd
    rcases (by simpa [activities] using mem : _ ∨ _) with ⟨-, rfl, -⟩ | ⟨-, rfl, -⟩
    · exact List.mem_append_left _ hd
    · exact List.mem_append_right
        [.obj [("_id", .int 1), ("n", .int 0)], .obj [("n", .int 1)]] hd
  refine replay_events ⟨?_, ?_, ?_⟩ rfl rfl
  · intro collection docs mem
    simp [activities] at mem
  · intro collection docs ordered mem d hd
    have known := inserted collection docs ordered mem d hd
    simp only [List.mem_cons, List.not_mem_nil, or_false] at known
    rcases known with rfl | rfl | rfl | rfl | rfl
    · exact .obj (by simp [Fields.keys]) (by simp [Json.int, Json.WellFormed.num])
    · exact .obj (by simp [Fields.keys]) (by simp [Json.int, Json.WellFormed.num])
    · exact .obj (by simp [Fields.keys]) (by simp [Json.WellFormed.str])
    · exact .obj (by simp [Fields.keys]) (by simp [Json.int, Json.WellFormed.num])
    · exact .obj .nil (by simp)
  · intro collection docs ordered mem d hd id hid
    have known := inserted collection docs ordered mem d hd
    simp only [List.mem_cons, List.not_mem_nil, or_false] at known
    rcases known with rfl | rfl | rfl | rfl | rfl <;> cases hid <;> rfl

end Store

end DocStore
