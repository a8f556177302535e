import DocStore.Proofs.Client.Custody
import DocStore.Proofs.Client.PoolTraffic
import Mathlib.Data.List.Nodup

/-!
# The slots that cursors keep

A cursor of a session takes a slot in the pool of its mode when it is opened and keeps it until it is
dropped, whether the store has anything left for it or not; nothing else keeps a slot from one step
to the next (`Session.Seated`). So as many slots are taken as there are cursors, and a cursor that
is exhausted but not dropped keeps other callers waiting (`Session.slots_in_use`).
-/

namespace DocStore

/-! ## Entries under names of their own -/

namespace Dictionary

variable {κ α β : Type} [BEq κ] [LawfulBEq κ] {d : Dictionary κ α} {k : κ} {v w : α}

theorem not_mem_of_get? (absent : d.get? k = none) : k ∉ d.map Prod.fst := by
  intro mem
  induction d with
  | nil => cases mem
  | cons e rest ih =>
    rw [get?_cons] at absent
    by_cases here : k == e.1
    · rw [if_pos here] at absent
      cases absent
    · rw [if_neg here] at absent
      rcases List.mem_cons.1 mem with same | later
      · exact here (beq_iff_eq.2 same)
      · exact ih absent later

/-- A new key comes last. -/
theorem insert_of_absent (absent : k ∉ d.map Prod.fst) : insert k v d = d ++ [(k, v)] := by
  induction d with
  | nil => rfl
  | cons e rest ih =>
    obtain ⟨other, later⟩ := List.ne_and_not_mem_of_not_mem_cons absent
    have other : ¬ (e.1 == k) = true := fun same => other (beq_iff_eq.1 same).symm
    show (if e.1 == k then (e.1, v) :: rest else e :: insert k v rest) = _
    rw [if_neg other, ih later]
    rfl

/-- An entry is written over in its place. -/
theorem map_insert_of_get? {f : κ × α → β} (found : d.get? k = some w) (same : f (k, v) = f (k, w)) :
    (insert k v d).map f = d.map f := by
  induction d with
  | nil => cases found
  | cons e rest ih =>
    obtain ⟨l, u⟩ := e
    rw [get?_cons] at found
    show (if l == k then (l, v) :: rest else (l, u) :: insert k v rest).map f = _
    by_cases here : l = k
    · subst here
      rw [if_pos BEq.rfl] at found
      cases found
      rw [if_pos BEq.rfl, List.map_cons, List.map_cons, same]
    · rw [if_neg (by simpa using Ne.symm here)] at found
      rw [if_neg (by simpa using here), List.map_cons, List.map_cons, ih found]

/-- Under names of their own, an entry that is erased is the only one that goes. -/
theorem perm_erase (own : (d.map Prod.fst).Nodup) (found : d.get? k = some v) :
    d.Perm ((k, v) :: erase k d) := by
  induction d with
  | nil => cases found
  | cons e rest ih =>
    obtain ⟨l, u⟩ := e
    obtain ⟨fresh, own⟩ := List.nodup_cons.1 own
    rw [get?_cons] at found
    unfold erase
    by_cases here : l = k
    · subst here
      rw [if_pos BEq.rfl] at found
      cases found
      rw [List.filter_cons_of_neg (by simp)]
      have rest_kept : rest.filter (fun e => !(e.1 == l)) = rest := by
        refine List.filter_eq_self.2 fun e mem => ?_
        have other : e.1 ≠ l := fun same => fresh (same ▸ List.mem_map.2 ⟨e, mem, rfl⟩)
        simpa using other
      rw [rest_kept]
    · rw [if_neg (by simpa using Ne.symm here)] at found
      rw [List.filter_cons_of_pos (by simpa using here)]
      exact ((ih own found).cons (l, u)).trans (.swap ..)

omit [LawfulBEq κ] in
theorem nodup_erase (own : (d.map Prod.fst).Nodup) (k : κ) :
    ((erase k d).map Prod.fst).Nodup :=
  own.sublist (List.filter_sublist.map Prod.fst)

theorem not_mem_erase (d : Dictionary κ α) (k : κ) : k ∉ (erase k d).map Prod.fst :=
  not_mem_of_get? (get?_erase_self d k)

end Dictionary

/-! ## Slots taken and given back -/

namespace Pool

variable {κ σ : Type}

/-- A slot is taken if a connection is handed out, and only then. -/
theorem seats_acquire (connector : Connector κ σ) (p : Pool κ) (s : σ) :
    (p.acquire connector s).2.1.maxSize = p.maxSize ∧
      (p.acquire connector s).2.1.inUse = match (p.acquire connector s).1 with
        | .ok _ => p.inUse + 1
        | .error _ => p.inUse := by
  have ways := acquires connector p s
  generalize p.acquire connector s = r at ways
  cases ways <;> exact ⟨rfl, rfl⟩

/-- The size of a pool never changes. -/
theorem maxSize_release (connector : Connector κ σ) (p : Pool κ) (g : Guard κ) (s : σ) :
    (p.release connector g s).1.maxSize = p.maxSize := by
  obtain ⟨k, s', resets, -, ⟨released, -⟩ | released⟩ := release_cases connector p g s
  · rw [released]
  · rw [released]

end Pool

namespace Client

/-- The slots that are taken of the pools of a client, each for one of the modes listed. -/
structure Seats (size : Nat) (held : List Mode) (c : Client) : Prop where
  size : ∀ mode, (c.pool mode).maxSize = size
  taken : ∀ mode, (c.pool mode).inUse = held.count mode

/-- An attempt was made, which takes a slot if it succeeds: one in the pool that what comes of it
belongs to. -/
def Takes {ε α : Type} (size : Nat) (held : List Mode) (of : α → Mode) (r : Except ε α × Client) :
    Prop :=
  match r.1 with
  | .error _ => r.2.Seats size held
  | .ok a => r.2.Seats size (of a :: held)

section

variable {size : Nat} {held held' : List Mode} {c c' : Client}

/-- Only what happens to the pools moves slots. -/
theorem Seats.of_pool (h : c.Seats size held) (same : ∀ mode, c'.pool mode = c.pool mode) :
    c'.Seats size held := by
  constructor
  · intro mode
    rw [same mode]
    exact h.size mode
  · intro mode
    rw [same mode]
    exact h.taken mode

theorem Seats.withStore (h : c.Seats size held) (s : Store) :
    ({ c with store := s } : Client).Seats size held := h.of_pool (c.pool_withStore s)

theorem Seats.record (h : c.Seats size held) (r : CallRecord) : (c.record r).Seats size held := by
  refine h.of_pool fun mode => ?_
  cases mode <;> rfl

theorem Seats.of_perm (h : c.Seats size held) (perm : held.Perm held') : c.Seats size held' :=
  ⟨h.size, fun mode => (h.taken mode).trans (perm.count_eq mode)⟩

/-- The pool of one mode was worked on. -/
theorem Seats.withPool (h : c.Seats size held) {mode : Mode} {p : Pool Connection} (s : Store)
    (same : p.maxSize = (c.pool mode).maxSize) (mine : p.inUse = held'.count mode)
    (others : ∀ other, other ≠ mode → held'.count other = held.count other) :
    (c.withPool mode p s).Seats size held' := by
  constructor
  · intro other
    rw [pool_withPool]
    split
    · exact same.trans (h.size mode)
    · exact h.size other
  · intro other
    rw [pool_withPool]
    split
    · rename_i this
      rw [this]
      exact mine
    · rename_i away
      rw [others other away]
      exact h.taken other

/-- To take a connection takes a slot, unless it fails. -/
theorem Seats.acquire (h : c.Seats size held) (call : Call) :
    Takes size held (fun _ => call.mode) (c.acquire call) := by
  unfold Client.acquire
  dsimp only
  split
  · exact h.withStore _
  · obtain ⟨same, taken⟩ := Pool.seats_acquire (connector call.mode) (c.pool call.mode) c.store
    unfold Takes
    dsimp only
    revert same taken
    obtain ⟨_ | g, p, s⟩ := (c.pool call.mode).acquire (connector call.mode) c.store
    · intro same taken
      exact h.withPool s same (taken.trans (h.taken call.mode)) fun _ _ => rfl
    · intro same taken
      have taken : p.inUse = (c.pool call.mode).inUse + 1 := taken
      refine h.withPool s same ?_ fun other away => List.count_cons_of_ne away.symm
      rw [taken, h.taken, List.count_cons_self]

/-- A connection that is given back frees the slot of its mode. -/
theorem Seats.release {mode : Mode} (h : c.Seats size (mode :: held)) (g : Guard Connection) :
    (c.release mode g).Seats size held := by
  have given : ((c.pool mode).release (connector mode) g c.store).1.inUse = held.count mode := by
    rw [Pool.inUse_release, h.taken, List.count_cons_self, Nat.add_sub_cancel]
  exact h.withPool _ (Pool.maxSize_release ..) given fun other away =>
    (List.count_cons_of_ne away.symm).symm

theorem Seats.settle (h : c.Seats size held) {α : Type} (call : Call)
    (result : TransportResult α) : (c.settle call result).2.Seats size held := h.withStore _

theorem Seats.fail (h : c.Seats size held) (call : Call) (e : TransportError) :
    Takes size held Cursor.mode (c.fail call e) :=
  (h.settle call (.error e : TransportResult Reply)).record _

theorem Seats.begin (h : c.Seats size held) (mode : Mode) (command : Command)
    (limit : Option Nat) : (c.begin mode command limit).2.Seats size held :=
  (h.withStore _).record _

/-- A command gives the slot back that it takes. -/
theorem Seats.send (h : c.Seats size held) (call : Call) : (c.send call).2.Seats size held := by
  have acquired := h.acquire call
  rw [send_eq]
  revert acquired
  obtain ⟨_ | g, c'⟩ := c.acquire call
  · intro acquired
    exact acquired
  · intro acquired
    have acquired : c'.Seats size (call.mode :: held) := acquired
    exact (acquired.withStore _).release _

/-- A command frees the slot that it took before it ends. -/
theorem Seats.run (h : c.Seats size held) (mode : Mode) (command : Command) (limit : Option Nat) :
    (c.run mode command limit).2.Seats size held :=
  (((h.begin mode command limit).send _).settle _ _).record _

/-- A cursor that is handed over keeps the slot of its call; one that comes late gives it back. -/
theorem Seats.handOver {call : Call} (h : c.Seats size (call.mode :: held))
    (g : Guard Connection) (batch : Batch) : Takes size held Cursor.mode (c.handOver call g batch) := by
  rw [handOver_eq]
  unfold handOverBy
  have looked : (onStore call.patience.isLate c).2.Seats size (call.mode :: held) := h.withStore _
  split
  · exact ((looked.withStore _).release _).fail call (.timeout 0)
  · have settled := looked.settle call (.ok batch : TransportResult Batch)
    revert settled
    obtain ⟨_ | _, c'⟩ := (onStore call.patience.isLate c).2.settle call (.ok batch)
    · intro settled
      exact (settled.release g).record _
    · intro settled
      exact settled.record _

/-- The slot of a cursor stays taken if the cursor is handed over, and is freed otherwise. -/
theorem Seats.openThrough {call : Call} (h : c.Seats size (call.mode :: held))
    (g : Guard Connection) (n : Nat) : Takes size held Cursor.mode (openThrough call g n c) := by
  unfold Client.openThrough received
  have called : (onStore (fun s => regroup (g.call
      (fun k s => k.openCursor call.patience call.command n s) s)) c).2.Seats size
      (call.mode :: held) := h.withStore _
  revert called
  obtain ⟨⟨_ | batch, g'⟩, c'⟩ := onStore (fun s => regroup (g.call
      (fun k s => k.openCursor call.patience call.command n s) s)) c
  · intro called
    exact (called.release g').fail call _
  · intro called
    exact called.handOver g' batch

/-- **A slot is kept exactly if a cursor is opened.** -/
theorem Seats.openCursor (h : c.Seats size held) (mode : Mode) (command : Command)
    (limit : Option Nat) : Takes size held Cursor.mode (c.openCursor mode command limit) := by
  rw [openCursor_eq]
  unfold establish
  dsimp only
  generalize (⟨mode, command, limit, c.store.readClock.1⟩ : Call) = call
  have acquired := (h.begin mode command limit).acquire call
  unfold connected
  revert acquired
  obtain ⟨_ | g, c'⟩ := (c.begin mode command limit).2.acquire call
  · intro acquired
    exact Seats.fail acquired call _
  · intro acquired
    exact Seats.openThrough acquired g _

end

end Client

/-! ## Reading and dropping -/

namespace Cursor

/-- A cursor was read: it is of the mode that it was, and the pools are as they were. -/
structure Reads (cur : Cursor) (c : Client) (cur' : Cursor) (c' : Client) : Prop where
  mode : cur'.mode = cur.mode
  pool : ∀ mode, c'.pool mode = c.pool mode

section

variable {cur cur' cur'' : Cursor} {c c' c'' : Client}

theorem Reads.trans (h : Reads cur c cur' c') (h' : Reads cur' c' cur'' c'') :
    Reads cur c cur'' c'' :=
  ⟨h'.mode.trans h.mode, fun mode => (h'.pool mode).trans (h.pool mode)⟩

theorem mode_arrived (cur : Cursor) (result : TransportResult Batch) (late : Bool) :
    (cur.arrived result late).2.mode = cur.mode := by
  unfold arrived
  cases result with
  | error e => cases e <;> cases cur.limit <;> rfl
  | ok batch => cases late <;> rfl

/-- A fetch keeps the connection that the cursor has. -/
theorem fetch_reads (cur : Cursor) (c : Client) :
    Reads cur c (cur.fetch c).2.1 (cur.fetch c).2.2 := by
  have gathered : Reads cur c (regroup (cur.fetch c)).1.2 (regroup (cur.fetch c)).2 := by
    rw [fetch_eq]
    exact ⟨mode_arrived .., fun mode => by cases mode <;> rfl⟩
  exact gathered

theorem next_reads (cur : Cursor) (c : Client) :
    Reads cur c (cur.next c).2.1 (cur.next c).2.2 := by
  unfold next
  split
  · exact ⟨rfl, fun _ => rfl⟩
  · split
    · exact ⟨rfl, fun _ => rfl⟩
    · have fetched := cur.fetch_reads c
      revert fetched
      obtain ⟨_ | _, cur', c'⟩ := cur.fetch c
      · exact fun fetched => fetched
      · intro fetched
        dsimp only at fetched ⊢
        split
        · exact ⟨fetched.mode, fetched.pool⟩
        · exact fetched

theorem take_reads (n : Nat) (cur : Cursor) (c : Client) :
    Reads cur c (cur.take n c).2.1 (cur.take n c).2.2 := by
  induction n generalizing cur c with
  | zero => exact ⟨rfl, fun _ => rfl⟩
  | succ n ih =>
    rw [take_succ]
    exact (cur.next_reads c).trans (ih ..)

theorem readOut_reads (n : Nat) (cur : Cursor) (c : Client) :
    Reads cur c (cur.readOut n c).2.1 (cur.readOut n c).2.2 := by
  induction n generalizing cur c with
  | zero => exact ⟨rfl, fun _ => rfl⟩
  | succ n ih =>
    rw [readOut_succ]
    split
    · exact ⟨rfl, fun _ => rfl⟩
    · have fetched : Reads cur c (cur.emptied.fetch c).2.1 (cur.emptied.fetch c).2.2 :=
        ⟨(cur.emptied.fetch_reads c).mode, (cur.emptied.fetch_reads c).pool⟩
      revert fetched
      obtain ⟨_ | _, cur', c'⟩ := cur.emptied.fetch c
      · exact fun fetched => fetched
      · exact fun fetched => fetched.trans (ih ..)

variable {size : Nat} {held : List Mode}

/-- A cursor that is dropped gives its slot back. -/
theorem drop_seats (h : c.Seats size (cur.mode :: held)) : (cur.drop c).Seats size held :=
  (h.withStore _).release _

/-- A cursor that is read to its end frees its slot. -/
theorem toList_seats (h : c.Seats size (cur.mode :: held)) : (cur.toList c).2.Seats size held := by
  have read := readOut_reads (c.store.pending cur.id + 1) cur c
  have seats := h.of_pool read.pool
  rw [← read.mode] at seats
  exact drop_seats seats

end

end Cursor

/-! ## Sessions -/

namespace Session

/-- The cursors of a session have names of their own, and each takes a slot; so do some that have
no name yet. Nothing else takes one. -/
structure Seated (size : Nat) (unnamed : List Mode) (s : Session) : Prop where
  named : (s.cursors.map Prod.fst).Nodup
  seats : s.client.Seats size (unnamed ++ s.cursors.map fun e => e.2.mode)

section

variable {size : Nat} {unnamed : List Mode} {s s' : Session} {c' : Client} {name : String}
  {cur : Cursor}

theorem Seated.of_draw (h : s.Seated size unnamed) {draft : Draft} {command : Command}
    (drawn : s.draw draft = .ok (command, s')) : s'.Seated size unnamed := by
  obtain ⟨_, rfl⟩ := draw_eq drawn
  exact ⟨h.named, h.seats.withStore _⟩

/-- The slot of a cursor, apart from the others. -/
theorem Seated.seats_of_get? (h : s.Seated size unnamed) (found : s.cursors.get? name = some cur) :
    s.client.Seats size (cur.mode :: (unnamed ++ (s.cursors.erase name).map fun e => e.2.mode)) := by
  have apart := (Dictionary.perm_erase h.named found).map fun e => e.2.mode
  exact h.seats.of_perm ((apart.append_left unnamed).trans List.perm_middle)

theorem Seated.erase (h : s.Seated size unnamed)
    (seats : c'.Seats size (unnamed ++ (s.cursors.erase name).map fun e => e.2.mode)) :
    (Session.mk c' (s.cursors.erase name)).Seated size unnamed :=
  ⟨Dictionary.nodup_erase h.named name, seats⟩

/-- To drop a named cursor frees its slot. -/
theorem Seated.dropCursor (h : s.Seated size unnamed) (name : String) :
    (s.dropCursor name).Seated size unnamed := by
  unfold Session.dropCursor
  cases found : s.cursors.get? name with
  | none => exact h
  | some cur => exact h.erase (Cursor.drop_seats (h.seats_of_get? found))

theorem dropCursor_fresh (s : Session) (name : String) :
    name ∉ (s.dropCursor name).cursors.map Prod.fst := by
  unfold Session.dropCursor
  cases found : s.cursors.get? name with
  | none => exact Dictionary.not_mem_of_get? found
  | some cur => exact Dictionary.not_mem_erase s.cursors name

/-- A cursor comes under a name that is free. -/
theorem Seated.insert (h : s.Seated size [cur.mode]) (fresh : name ∉ s.cursors.map Prod.fst) :
    ({ s with cursors := s.cursors.insert name cur } : Session).Seated size [] := by
  rw [Dictionary.insert_of_absent fresh]
  constructor
  · show ((s.cursors ++ [(name, cur)]).map Prod.fst).Nodup
    rw [List.map_append]
    exact List.Nodup.append h.named (List.nodup_singleton name) (by simpa using fresh)
  · show s.client.Seats size ((s.cursors ++ [(name, cur)]).map fun e => e.2.mode)
    rw [List.map_append]
    exact h.seats.of_perm List.perm_append_comm

theorem Seated.openCursor (h : s.Seated size []) (name : String) (mode : Mode) (draft : Draft)
    (limit : Option Nat) : (s.openCursor name mode draft limit).2.Seated size [] := by
  unfold Session.openCursor
  cases drawn : s.draw draft with
  | error e => exact h
  | ok made =>
    obtain ⟨command, t⟩ := made
    have ready := h.of_draw drawn
    have opened := ready.seats.openCursor mode command (t.limitOf limit)
    dsimp only
    revert opened
    obtain ⟨_ | cur, c'⟩ := t.client.openCursor mode command (t.limitOf limit)
    · intro opened
      exact ⟨ready.named, opened⟩
    · intro opened
      -- For a moment the new cursor and the one that it replaces both take a slot.
      have both : ({ t with client := c' } : Session).Seated size [cur.mode] :=
        ⟨ready.named, opened⟩
      exact (both.dropCursor name).insert (dropCursor_fresh _ name)

theorem Seated.take (h : s.Seated size []) (name : String) (n : Nat) :
    (s.take name n).2.Seated size [] := by
  unfold Session.take
  cases found : s.cursors.get? name with
  | none => exact h
  | some cur =>
    have read := cur.take_reads n s.client
    constructor
    · have same : (s.cursors.insert name (cur.take n s.client).2.1).map Prod.fst =
          s.cursors.map Prod.fst := Dictionary.map_insert_of_get? found rfl
      exact same ▸ h.named
    · have same : (s.cursors.insert name (cur.take n s.client).2.1).map (fun e => e.2.mode) =
          s.cursors.map fun e => e.2.mode := Dictionary.map_insert_of_get? found read.mode
      have seats := h.seats.of_pool read.pool
      rw [← same] at seats
      exact seats

/-- **A step keeps one slot taken for each cursor.** -/
theorem Seated.step (h : s.Seated size []) (a : Action) : (s.step a).2.Seated size [] := by
  cases a with
  | run mode draft limit single =>
    show (s.run mode draft limit single).2.Seated size []
    unfold Session.run
    cases drawn : s.draw draft with
    | error e => exact h
    | ok made =>
      have ready := h.of_draw drawn
      exact ⟨ready.named, ready.seats.run ..⟩
  | openCursor name mode draft limit => exact h.openCursor name mode draft limit
  | take name n => exact h.take name n
  | readOut name =>
    show (s.readOut name).2.Seated size []
    unfold Session.readOut
    cases found : s.cursors.get? name with
    | none => exact h
    | some cur => exact h.erase (Cursor.toList_seats (h.seats_of_get? found))
  | drop name =>
    rw [step_drop]
    exact h.dropCursor name
  | close =>
    refine ⟨h.named, fun mode => ?_, fun mode => ?_⟩
    · cases mode
      · exact h.seats.size .sync
      · exact h.seats.size .async
    · cases mode
      · exact h.seats.taken .sync
      · exact h.seats.taken .async
  | adjust adjustment => exact ⟨h.named, h.seats.withStore _⟩

/-- So it is after any steps. -/
theorem Seated.afterAll (h : s.Seated size []) (actions : List Action) :
    (s.afterAll actions).Seated size [] := by
  induction actions generalizing s with
  | nil => exact h
  | cons a rest ih => exact ih (h.step a)

theorem seated_new {config : Config} {registry : Registry} {store : Store} {c : Client}
    (made : Client.new config registry store = .ok c) :
    (Session.mk c []).Seated config.pool.maxSize [] := by
  obtain ⟨_, -, same⟩ := Fallible.bind_eq_ok.1 made
  cases same
  refine ⟨List.nodup_nil, fun mode => ?_, fun mode => ?_⟩
  · cases mode <;> rfl
  · cases mode <;> rfl

end

/-- The cursors of a session that are of a mode. -/
def cursorsOf (s : Session) (mode : Mode) : List Cursor :=
  (s.cursors.map Prod.snd).filter fun cur => cur.mode == mode

theorem Seated.inUse_eq {size : Nat} {s : Session} (h : s.Seated size []) (mode : Mode) :
    (s.client.pool mode).inUse = (s.cursorsOf mode).length := by
  have taken : _ = List.count mode (s.cursors.map fun e => e.2.mode) := h.seats.taken mode
  rw [taken, cursorsOf, ← List.countP_eq_length_filter, List.count, List.countP_map, List.countP_map]
  rfl

/-- **Who keeps a slot.** Whatever a session does, as many slots of a pool are taken as there are
cursors of its mode that were not dropped. That is the number of those that are not exhausted
exactly if none of them is exhausted; and a caller finds a free slot exactly if there are fewer
cursors, exhausted or not, than the pool has slots. -/
theorem slots_in_use {config : Config} {registry : Registry} {store : Store} {c : Client}
    (made : Client.new config registry store = .ok c) (actions : List Action) (mode : Mode) :
    let s := (Session.mk c []).afterAll actions
    (s.client.pool mode).inUse = (s.cursorsOf mode).length ∧
      ((s.client.pool mode).inUse = ((s.cursorsOf mode).filter (·.id != 0)).length ↔
        ∀ cur ∈ s.cursorsOf mode, cur.id ≠ 0) ∧
      ((s.client.pool mode).hasSlot ↔ (s.cursorsOf mode).length < config.pool.maxSize) := by
  intro s
  have seated : s.Seated config.pool.maxSize [] := (seated_new made).afterAll actions
  have taken := seated.inUse_eq mode
  refine ⟨taken, ?_, ?_⟩
  · rw [taken, eq_comm, List.length_filter_eq_length_iff]
    simp only [bne_iff_ne]
  · unfold Pool.hasSlot
    rw [taken, seated.seats.size mode, decide_eq_true_iff]

/-- Two cursors that are not exhausted in a pool of two, and a third caller who finds no slot until
one of them is dropped. -/
theorem slots_in_use_two :
    let config : Config := { pool := { maxSize := 2 }, batchSize := 1 }
    let client : Client :=
      { config, registry := {}, store := { clock := ⟨0, []⟩ },
        blockingPool := Client.newPool config.pool, asyncPool := Client.newPool config.pool }
    let reads : Draft := .ofCommand (.ok (.find "c" { filter := .obj [] }))
    let actions : List Action :=
      [.adjust (.seed "c" [.obj [("_id", .int 1)], .obj [("_id", .int 2)], .obj [("_id", .int 3)]]),
        .openCursor "a" .async reads none, .openCursor "b" .async reads none,
        .openCursor "c" .async reads none]
    (((Session.mk client []).afterAll actions).client.pool .async).hasSlot = false ∧
      ((((Session.mk client []).afterAll actions).client.pool .async).inUse =
          ((((Session.mk client []).afterAll actions).cursorsOf .async).filter (·.id != 0)).length ↔
        (∀ cur ∈ ((Session.mk client []).afterAll actions).cursorsOf .async, cur.id ≠ 0)) ∧
      (((Session.mk client []).afterAll (actions ++ [.drop "a"])).client.pool .async).hasSlot := by
  intro config client reads actions
  have made : Client.new config {} { clock := ⟨0, []⟩ } = .ok client := rfl
  obtain ⟨-, even, -⟩ := slots_in_use made actions .async
  obtain ⟨-, -, free⟩ := slots_in_use made (actions ++ [.drop "a"]) .async
  have fewer : (((Session.mk client []).afterAll (actions ++ [.drop "a"])).cursorsOf .async).length <
      config.pool.maxSize := by decide +kernel
  exact ⟨by decide +kernel, even, free.2 fewer⟩

/-- A cursor whose only batch has arrived is exhausted, and keeps the only slot. -/
theorem slot_kept_by_exhausted :
    let config : Config := { pool := { maxSize := 1 } }
    let client : Client :=
      { config, registry := {}, store := { clock := ⟨0, []⟩ },
        blockingPool := Client.newPool config.pool, asyncPool := Client.newPool config.pool }
    let reads : Draft := .ofCommand (.ok (.find "c" { filter := .obj [] }))
    let s := (Session.mk client []).afterAll
      [.adjust (.seed "c" [.obj [("_id", .int 1)]]), .openCursor "a" .async reads none]
    Client.new config {} { clock := ⟨0, []⟩ } = .ok client ∧
      (s.cursorsOf .async).map Cursor.id = [0] ∧ (s.client.pool .async).inUse = 1 ∧
      (s.client.pool .async).hasSlot = false ∧
      (s.client.run .async (.count "c" (.obj [])) none).1.message =
        "Connection error: connection pool exhausted" := by
  intro config client reads s
  refine ⟨rfl, ?_, ?_, ?_, ?_⟩ <;> decide +kernel

end Session

end DocStore
