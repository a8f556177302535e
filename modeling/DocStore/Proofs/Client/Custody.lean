import DocStore.Proofs.Client.ModeExchange
import DocStore.Proofs.Client.Ownership

/-!
# The cursors of a session

Every open cursor on the store belongs to one cursor of the session. A step works on one cursor of
the session at most: on the store it touches what that cursor holds, and the next number
(`Session.Moves`); all else stays as it is. So no step can leave a cursor on the store behind
(`Session.nothing_leaks`), as long as a call makes up its mind once whether it is late.
-/

namespace DocStore

open Store (SameBut Opened)
open Client (Traceless)

/-- The name of the cursor that a step works on, if there is one. -/
def Action.target? : Action → Option String
  | .openCursor name .. | .take name _ | .readOut name | .drop name => some name
  | _ => none

/-! ## The end of a cursor -/

namespace Cursor

/-- A cursor was given up: what it held is closed, and its connection was given back. -/
structure Dropped (cur : Cursor) (c c' : Client) : Prop where
  table : SameBut cur.held c.store c'.store
  closed : ∀ id ∈ cur.held, c'.store.cursors.get? id = none
  tidy : c'.Tidy

section

variable {cur cur' : Cursor} {c c' c'' : Client}

theorem drop_dropped (owns : cur.Owns c.store) (tidy : c.Tidy) :
    Dropped cur c (cur.drop c) := by
  have killed : (cur.guard.kill cur.id c.store).1.connection.cursors = [] ∧
      SameBut cur.held c.store (cur.guard.kill cur.id c.store).2 ∧
      ∀ id ∈ cur.held, (cur.guard.kill cur.id c.store).2.cursors.get? id = none := by
    have tracked := owns.tracked
    unfold Guard.kill
    by_cases done : cur.id = 0
    · rw [if_pos (by simpa using done), held_of_done done]
      rw [held_of_done done] at tracked
      exact ⟨tracked, .refl _, fun _ mem => absurd mem List.not_mem_nil⟩
    · rw [if_neg (by simpa using done), held_of_going done]
      rw [held_of_going done] at tracked
      refine ⟨Connection.cursors_forget tracked, c.store.sameBut_killCursor cur.id, fun id mem => ?_⟩
      rw [List.mem_singleton.1 mem]
      exact Dictionary.get?_erase_self ..
  obtain ⟨idle, table, closed⟩ := killed
  have released := Client.release_traceless
    (tidy.withStore (cur.guard.kill cur.id c.store).2) idle cur.mode
  refine ⟨table.trans released.table.of_nil, fun id mem => ?_, released.tidy⟩
  exact (released.table.others id List.not_mem_nil).trans (closed id mem)

/-- A cursor may be read before it is given up. -/
theorem Advances.dropped (h : Advances cur c cur' c') (h' : Dropped cur' c' c'') :
    Dropped cur c c'' where
  table := h.table.trans (h'.table.mono h.held)
  closed := by
    intro id mem
    by_cases still : id ∈ cur'.held
    · exact h'.closed id still
    · rw [h'.table.others id still]
      exact h.ended id mem still
  tidy := h'.tidy

theorem toList_dropped (owns : cur.Owns c.store) (tidy : c.Tidy) :
    Dropped cur c (cur.toList c).2 := by
  have read := readOut_advances (c.store.pending cur.id + 1) owns
  exact read.dropped (drop_dropped read.owns (tidy.of_pool read.pool))

end

end Cursor

namespace Session

/-! ## Sound sessions -/

/-- What the cursor under a name holds. -/
def heldUnder (s : Session) (name : String) : List Nat :=
  match s.cursors.get? name with
  | some cur => cur.held
  | none => []

/-- Every cursor of the session owns what it holds, and holds it alone. -/
structure Sound (s : Session) : Prop where
  numbered : s.client.store.Numbered
  tidy : s.client.Tidy
  owns : ∀ name cur, s.cursors.get? name = some cur → cur.Owns s.client.store
  single : ∀ name other id, id ∈ s.heldUnder name → id ∈ s.heldUnder other → name = other

/-- The session with a cursor that its client has opened, instead of the one that had the name. -/
def enter (s : Session) (name : String) (cur : Cursor) (c' : Client) : Session :=
  let s := { s with client := c' }.dropCursor name
  { s with cursors := s.cursors.insert name cur }

/-- What a step on a cursor may open or close on the store. -/
def touched (s : Session) (target : Option String) : List Nat :=
  s.client.store.nextCursor :: (target.map s.heldUnder).getD []

/-- A step was made: what it opened is held by the cursor that it works on, and what that cursor
held before and does not hold now is closed. -/
structure Moves (a : Action) (s s' : Session) : Prop where
  others : ∀ name, a.target? ≠ some name → s'.cursors.get? name = s.cursors.get? name
  table : ∀ id, id ∉ s.touched a.target? →
    s'.client.store.cursors.get? id = s.client.store.cursors.get? id
  next : s.client.store.nextCursor ≤ s'.client.store.nextCursor
  reachable : (∀ b, a ≠ .adjust (.setUnreachable b)) →
    s'.client.store.unreachable = s.client.store.unreachable
  numbered : s'.client.store.Numbered
  tidy : s'.client.Tidy
  owns : ∀ name cur, a.target? = some name → s'.cursors.get? name = some cur →
    cur.Owns s'.client.store ∧ cur.held ⊆ s.touched a.target?
  kept : ∀ id ∈ s.touched a.target?, (s'.client.store.cursors.get? id).isSome →
    ∃ name, a.target? = some name ∧ id ∈ s'.heldUnder name

section

variable {s s' : Session} {a : Action} {target : Option String} {name : String}
  {cur cur' : Cursor} {id : Nat} {c' : Client}

theorem mem_heldUnder :
    id ∈ s.heldUnder name ↔ ∃ cur, s.cursors.get? name = some cur ∧ id ∈ cur.held := by
  unfold heldUnder
  cases s.cursors.get? name with
  | none => simp
  | some cur => simp

theorem heldUnder_of_some (found : s.cursors.get? name = some cur) : s.heldUnder name = cur.held := by
  unfold heldUnder
  rw [found]

theorem mem_touched : id ∈ s.touched target ↔
    id = s.client.store.nextCursor ∨ ∃ name, target = some name ∧ id ∈ s.heldUnder name := by
  unfold touched
  cases target with
  | none => simp
  | some name => simp

theorem Sound.opened (h : s.Sound) (mem : id ∈ s.heldUnder name) :
    (s.client.store.cursors.get? id).isSome := by
  obtain ⟨cur, found, mem⟩ := mem_heldUnder.1 mem
  exact (h.owns name cur found).opened id mem

theorem Sound.known (h : s.Sound) (mem : id ∈ s.heldUnder name) :
    id < s.client.store.nextCursor := h.numbered.known id (h.opened mem)

theorem Sound.known_of_held (h : s.Sound) (found : s.cursors.get? name = some cur)
    (mem : id ∈ cur.held) : id < s.client.store.nextCursor :=
  h.known (mem_heldUnder.2 ⟨cur, found, mem⟩)

/-- A step does not touch what other cursors hold. -/
theorem Sound.untouched (h : s.Sound) (away : target ≠ some name) (mem : id ∈ s.heldUnder name) :
    id ∉ s.touched target := by
  intro touched
  rcases mem_touched.1 touched with rfl | ⟨other, rfl, held⟩
  · exact absurd (h.known mem) (Nat.lt_irrefl _)
  · exact away (congrArg some (h.single other name id held mem))

theorem Moves.heldUnder (h : Moves a s s') (away : a.target? ≠ some name) :
    s'.heldUnder name = s.heldUnder name := by
  unfold Session.heldUnder
  rw [h.others name away]

theorem Moves.touched_of_mem (h : Moves a s s') (mem : id ∈ s'.heldUnder name)
    (mine : a.target? = some name) : id ∈ s.touched a.target? := by
  obtain ⟨cur, found, mem⟩ := mem_heldUnder.1 mem
  exact (h.owns name cur mine found).2 mem

/-- **A step keeps a session sound.** -/
theorem Moves.sound (h : Moves a s s') (sound : s.Sound) : s'.Sound where
  numbered := h.numbered
  tidy := h.tidy
  owns := by
    intro name cur found
    by_cases mine : a.target? = some name
    · exact (h.owns name cur mine found).1
    · rw [h.others name mine] at found
      have owns := sound.owns name cur found
      refine ⟨owns.tracked, fun id mem => ?_⟩
      have away := sound.untouched mine (mem_heldUnder.2 ⟨cur, found, mem⟩)
      rw [h.table id away]
      exact owns.opened id mem
  single := by
    intro name other id here there
    by_cases mine : a.target? = some name
    · by_cases yours : a.target? = some other
      · exact Option.some.inj (mine.symm.trans yours)
      · rw [h.heldUnder yours] at there
        exact absurd (h.touched_of_mem here mine) (sound.untouched yours there)
    · rw [h.heldUnder mine] at here
      by_cases yours : a.target? = some other
      · exact absurd (h.touched_of_mem there yours) (sound.untouched mine here)
      · rw [h.heldUnder yours] at there
        exact sound.single name other id here there

/-! ## Kinds of steps -/

/-- A step that leaves all cursors as they are. -/
theorem Moves.of_untouched (sound : s.Sound) (a : Action)
    (same : ∀ id, c'.store.cursors.get? id = s.client.store.cursors.get? id)
    (next : s.client.store.nextCursor ≤ c'.store.nextCursor)
    (reachable : (∀ b, a ≠ .adjust (.setUnreachable b)) →
      c'.store.unreachable = s.client.store.unreachable)
    (tidy : c'.Tidy) : Moves a s { s with client := c' } where
  others := fun _ _ => rfl
  table := fun id _ => same id
  next := next
  reachable := reachable
  numbered := by
    refine ⟨Nat.lt_of_lt_of_le sound.numbered.positive next, fun id opened => ?_⟩
    have opened : (c'.store.cursors.get? id).isSome := opened
    rw [same id] at opened
    exact Nat.lt_of_lt_of_le (sound.numbered.known id opened) next
  tidy := tidy
  owns := by
    intro name cur mine found
    have owns := sound.owns name cur found
    refine ⟨⟨owns.tracked, fun id mem => ?_⟩, fun id mem => ?_⟩
    · show (c'.store.cursors.get? id).isSome
      rw [same id]
      exact owns.opened id mem
    · exact mem_touched.2 (.inr ⟨name, mine, mem_heldUnder.2 ⟨cur, found, mem⟩⟩)
  kept := by
    intro id mem opened
    have opened : (c'.store.cursors.get? id).isSome := opened
    rcases mem_touched.1 mem with rfl | held
    · rw [same, sound.numbered.next_closed] at opened
      cases opened
    · exact held

theorem Moves.of_traceless (sound : s.Sound) (a : Action) (traceless : Traceless s.client c') :
    Moves a s { s with client := c' } :=
  .of_untouched sound a (fun id => traceless.table.others id List.not_mem_nil)
    traceless.table.next (fun _ => traceless.table.unreachable) traceless.tidy

/-- A step after which a cursor is under a name: what the step touched is held by that cursor, or
closed. -/
theorem Moves.of_entered {cursors : Dictionary String Cursor} (mine : a.target? = some name)
    (others : ∀ other, other ≠ name → cursors.get? other = s.cursors.get? other)
    (table : SameBut (s.touched (some name)) s.client.store c'.store)
    (numbered : c'.store.Numbered) (tidy : c'.Tidy) (owns : cur'.Owns c'.store)
    (held : cur'.held ⊆ s.touched (some name))
    (closed : ∀ id ∈ s.touched (some name), id ∉ cur'.held → c'.store.cursors.get? id = none) :
    Moves a s { client := c', cursors := cursors.insert name cur' } where
  others := by
    intro other away
    rw [mine] at away
    have away : other ≠ name := fun e => away (congrArg some e.symm)
    exact (Dictionary.get?_insert_of_ne away cursors cur').trans (others other away)
  table := by
    rw [mine]
    exact table.others
  next := table.next
  reachable := fun _ => table.unreachable
  numbered := numbered
  tidy := tidy
  owns := by
    intro other last same found
    obtain rfl : name = other := Option.some.inj (mine.symm.trans same)
    have entered : (cursors.insert name cur').get? name = some cur' :=
      Dictionary.get?_insert_self ..
    obtain rfl : cur' = last := Option.some.inj (entered.symm.trans found)
    rw [mine]
    exact ⟨owns, held⟩
  kept := by
    rw [mine]
    intro id mem opened
    have opened : (c'.store.cursors.get? id).isSome := opened
    refine ⟨name, rfl, mem_heldUnder.2 ⟨cur', Dictionary.get?_insert_self .., ?_⟩⟩
    by_contra gone
    rw [closed id mem gone] at opened
    cases opened

/-- The cursor under a name was read. -/
theorem Moves.of_advances (sound : s.Sound) (mine : a.target? = some name)
    (found : s.cursors.get? name = some cur) (read : cur.Advances s.client cur' c') :
    Moves a s { client := c', cursors := s.cursors.insert name cur' } := by
  have sub : cur.held ⊆ s.touched (some name) := by
    intro id mem
    exact mem_touched.2 (.inr ⟨name, rfl, mem_heldUnder.2 ⟨cur, found, mem⟩⟩)
  refine .of_entered mine (fun _ _ => rfl) (read.table.mono sub) ?_ (sound.tidy.of_pool read.pool)
    read.owns (fun _ mem => sub (read.held mem)) ?_
  · exact sound.numbered.of_sameBut read.table fun _ mem => sound.known_of_held found mem
  · intro id mem gone
    by_cases held : id ∈ cur.held
    · exact read.ended id held gone
    · -- Reading touches what the cursor holds, so that only the next number is left.
      rw [read.table.others id held]
      rcases mem_touched.1 mem with rfl | ⟨other, same, mem⟩
      · exact sound.numbered.next_closed
      · obtain rfl : name = other := Option.some.inj same
        rw [heldUnder_of_some found] at mem
        exact absurd mem held

/-- The cursor under a name was given up. -/
theorem Moves.of_dropped (sound : s.Sound) (mine : a.target? = some name)
    (found : s.cursors.get? name = some cur) (dropped : cur.Dropped s.client c') :
    Moves a s { client := c', cursors := s.cursors.erase name } where
  others := by
    intro other away
    rw [mine] at away
    exact Dictionary.get?_erase_of_ne (fun e => away (congrArg some e.symm)) s.cursors
  table := by
    intro id away
    refine dropped.table.others id fun mem => away ?_
    rw [mine]
    exact mem_touched.2 (.inr ⟨name, rfl, mem_heldUnder.2 ⟨cur, found, mem⟩⟩)
  next := dropped.table.next
  reachable := fun _ => dropped.table.unreachable
  numbered :=
    sound.numbered.of_sameBut dropped.table fun _ mem => sound.known_of_held found mem
  tidy := dropped.tidy
  owns := by
    intro other last same found'
    obtain rfl : name = other := Option.some.inj (mine.symm.trans same)
    rw [Dictionary.get?_erase_self] at found'
    cases found'
  kept := by
    rw [mine]
    intro id mem opened
    have opened : (c'.store.cursors.get? id).isSome := opened
    by_cases held : id ∈ cur.held
    · rw [dropped.closed id held] at opened
      cases opened
    · rw [dropped.table.others id held] at opened
      rcases mem_touched.1 mem with rfl | ⟨other, same, mem⟩
      · rw [sound.numbered.next_closed] at opened
        cases opened
      · obtain rfl : name = other := Option.some.inj same
        rw [heldUnder_of_some found] at mem
        exact absurd mem held

/-- Cursors own what they held when another one has been opened, which none of them holds. -/
theorem Sound.owns_of_opened (sound : s.Sound) (found : s.cursors.get? name = some cur) {t : Store}
    (opened : Opened id s.client.store t) :
    cur.Owns t ∧ s.client.store.nextCursor ∉ cur.held := by
  have away : s.client.store.nextCursor ∉ cur.held := fun mem =>
    absurd (sound.known_of_held found mem) (Nat.lt_irrefl _)
  refine ⟨⟨(sound.owns name cur found).tracked, fun other mem => ?_⟩, away⟩
  rw [opened.table.others other fun same => away (List.mem_singleton.1 same ▸ mem)]
  exact (sound.owns name cur found).opened other mem

/-- A cursor was opened under a name, and the one that had the name was given up. -/
theorem Moves.of_opened (sound : s.Sound) (mine : a.target? = some name)
    (opened : Opened cur.id s.client.store c'.store)
    (tracked : cur.guard.connection.cursors = cur.held) (tidy : c'.Tidy) :
    Moves a s (s.enter name cur c') := by
  have first : s.client.store.nextCursor ∈ s.touched (some name) := mem_touched.2 (.inl rfl)
  have sub : cur.held ⊆ s.touched (some name) := by
    intro id mem
    rw [Cursor.eq_next_of_opened opened mem]
    exact first
  have table : SameBut (s.touched (some name)) s.client.store c'.store := by
    refine opened.table.mono fun id mem => ?_
    rw [List.mem_singleton.1 mem]
    exact first
  have numbered := opened.numbered sound.numbered
  have owns := Cursor.owns_of_opened opened tracked
  have closed := Cursor.closed_of_opened sound.numbered opened
  unfold enter dropCursor
  dsimp only
  cases found : s.cursors.get? name with
  | none =>
    refine .of_entered mine (fun _ _ => rfl) table numbered tidy owns sub fun id mem gone => ?_
    rcases mem_touched.1 mem with rfl | ⟨other, same, mem⟩
    · exact closed gone
    · obtain rfl : name = other := Option.some.inj same
      obtain ⟨_, found', -⟩ := mem_heldUnder.1 mem
      rw [found] at found'
      cases found'
  | some old =>
    obtain ⟨owned, away⟩ := sound.owns_of_opened found opened
    have dropped := Cursor.drop_dropped owned tidy
    have mem_old {id : Nat} (mem : id ∈ old.held) : id ∈ s.touched (some name) :=
      mem_touched.2 (.inr ⟨name, rfl, mem_heldUnder.2 ⟨old, found, mem⟩⟩)
    have apart {id : Nat} (mem : id ∈ cur.held) : id ∉ old.held := by
      rw [Cursor.eq_next_of_opened opened mem]
      exact away
    refine .of_entered mine (fun other different => Dictionary.get?_erase_of_ne different s.cursors)
      (table.trans (dropped.table.mono fun _ mem => mem_old mem)) ?_ dropped.tidy ⟨tracked, ?_⟩ sub ?_
    · refine numbered.of_sameBut dropped.table fun id mem => ?_
      exact Nat.lt_of_lt_of_le (sound.known_of_held found mem) opened.table.next
    · intro id mem
      rw [dropped.table.others id (apart mem)]
      exact owns.opened id mem
    · intro id mem gone
      rcases mem_touched.1 mem with rfl | ⟨other, same, mem⟩
      · rw [dropped.table.others _ away]
        exact closed gone
      · obtain rfl : name = other := Option.some.inj same
        rw [heldUnder_of_some found] at mem
        exact dropped.closed id mem

/-! ## Steps -/

theorem draw_eq {draft : Draft} {command : Command} (drawn : s.draw draft = .ok (command, s')) :
    ∃ ids, s' = { s with client := { s.client with store := { s.client.store with ids } } } := by
  obtain ⟨⟨_, ids⟩, -, same⟩ := Fallible.bind_eq_ok.1 drawn
  cases same
  exact ⟨ids, rfl⟩

/-- Taking identifiers is no step on a cursor. -/
theorem Sound.of_draw (sound : s.Sound) {draft : Draft} {command : Command}
    (drawn : s.draw draft = .ok (command, s')) : s'.Sound := by
  obtain ⟨_, rfl⟩ := draw_eq drawn
  exact ⟨⟨sound.numbered.positive, sound.numbered.known⟩, sound.tidy.withStore _,
    fun name cur found => ⟨(sound.owns name cur found).tracked, (sound.owns name cur found).opened⟩,
    sound.single⟩

theorem Moves.of_draw {s'' : Session} {draft : Draft} {command : Command}
    (drawn : s.draw draft = .ok (command, s')) (h : Moves a s' s'') : Moves a s s'' := by
  obtain ⟨_, rfl⟩ := draw_eq drawn
  exact ⟨h.others, h.table, h.next, h.reachable, h.numbered, h.tidy, h.owns, h.kept⟩

/-- Whether the expiry of the deadline is decided once in each call of a step. -/
def stepDecidesOnce (s : Session) : Action → Bool
  | .openCursor _ mode draft limit =>
    match s.draw draft with
    | .error _ => true
    | .ok (command, s) => s.client.decidesOnce mode command (s.limitOf limit)
  | _ => true

theorem openCursor_moves (sound : s.Sound) (name : String) (mode : Mode) (draft : Draft)
    (limit : Option Nat) (once : s.stepDecidesOnce (.openCursor name mode draft limit)) :
    Moves (.openCursor name mode draft limit) s (s.openCursor name mode draft limit).2 := by
  unfold openCursor
  dsimp only [stepDecidesOnce] at once
  cases drawn : s.draw draft with
  | error e => exact .of_traceless sound _ ⟨.refl _, sound.tidy⟩
  | ok made =>
    obtain ⟨command, t⟩ := made
    have sound' := sound.of_draw drawn
    rw [drawn] at once
    dsimp only at once ⊢
    obtain ⟨tidy, established⟩ := Client.openCursor_established sound'.numbered sound'.tidy mode
      command (t.limitOf limit) once
    revert tidy established
    obtain ⟨response | cur, c'⟩ := t.client.openCursor mode command (t.limitOf limit)
    · rintro tidy (⟨-, table⟩ | ⟨_, other, -⟩)
      · exact .of_draw drawn (.of_traceless sound' _ ⟨table, tidy⟩)
      · cases other
    · rintro tidy (⟨⟨_, other⟩, -⟩ | ⟨_, same, opened, tracked⟩)
      · cases other
      · cases same
        exact .of_draw drawn (.of_opened sound' rfl opened tracked tidy)

theorem step_drop (s : Session) (name : String) : (s.step (.drop name)).2 = s.dropCursor name := by
  show (if (s.cursors.get? name).isSome then ((.done, s.dropCursor name) : Outcome × Session)
    else (.noCursor, s)).2 = _
  unfold dropCursor
  cases s.cursors.get? name <;> rfl

/-- **Every step moves one cursor at most, and leaves nothing behind**, as long as it makes up its
mind once whether it is late. -/
theorem step_moves (sound : s.Sound) (a : Action) (once : s.stepDecidesOnce a) :
    Moves a s (s.step a).2 := by
  cases a with
  | run mode draft limit single =>
    show Moves _ s (s.run mode draft limit single).2
    unfold run
    cases drawn : s.draw draft with
    | error e => exact .of_traceless sound _ ⟨.refl _, sound.tidy⟩
    | ok made =>
      obtain ⟨command, t⟩ := made
      have sound' := sound.of_draw drawn
      exact .of_draw drawn (.of_traceless sound' _ (Client.run_traceless sound'.tidy mode command _))
  | openCursor name mode draft limit => exact openCursor_moves sound name mode draft limit once
  | take name n =>
    show Moves _ s (s.take name n).2
    unfold take
    cases found : s.cursors.get? name with
    | none => exact .of_traceless sound _ ⟨.refl _, sound.tidy⟩
    | some cur =>
      exact .of_advances sound rfl found (Cursor.take_advances n (sound.owns name cur found))
  | readOut name =>
    show Moves _ s (s.readOut name).2
    unfold readOut
    cases found : s.cursors.get? name with
    | none => exact .of_traceless sound _ ⟨.refl _, sound.tidy⟩
    | some cur =>
      exact .of_dropped sound rfl found
        (Cursor.toList_dropped (sound.owns name cur found) sound.tidy)
  | drop name =>
    rw [step_drop]
    unfold dropCursor
    cases found : s.cursors.get? name with
    | none => exact .of_traceless sound _ ⟨.refl _, sound.tidy⟩
    | some cur =>
      exact .of_dropped sound rfl found
        (Cursor.drop_dropped (sound.owns name cur found) sound.tidy)
  | close =>
    refine .of_traceless sound _ ⟨.refl _, fun mode => ?_⟩
    cases mode <;> exact fun _ mem => absurd mem List.not_mem_nil
  | adjust adjustment =>
    have tidy : ({ s.client with store := s.client.store.adjust adjustment } : Client).Tidy :=
      sound.tidy.withStore _
    cases adjustment with
    | setUnreachable b =>
      exact .of_untouched sound _ (fun _ => rfl) (Nat.le_refl _) (fun other => absurd rfl (other b))
        tidy
    | _ => exact .of_untouched sound _ (fun _ => rfl) (Nat.le_refl _) (fun _ => rfl) tidy

end

/-! ## Runs -/

/-- The session after a number of steps. -/
def afterAll (s : Session) (actions : List Action) : Session :=
  actions.foldl (fun s a => (s.step a).2) s

/-- Whether the expiry of the deadline is decided once in each call of a run. -/
def decidesOnce : Session → List Action → Bool
  | _, [] => true
  | s, a :: rest => s.stepDecidesOnce a && decidesOnce (s.step a).2 rest

/-- What is open on the store is held by cursors of the session. -/
def Covered (s : Session) : Prop :=
  ∀ id, (s.client.store.cursors.get? id).isSome → ∃ name, id ∈ s.heldUnder name

section

variable {s s' : Session} {a : Action}

/-- A step opens no cursor that is not held afterwards, and lets go of none that stays open. -/
theorem Moves.covered (h : Moves a s s') (covered : s.Covered) : s'.Covered := by
  intro id opened
  by_cases mem : id ∈ s.touched a.target?
  · obtain ⟨name, -, held⟩ := h.kept id mem opened
    exact ⟨name, held⟩
  · rw [h.table id mem] at opened
    obtain ⟨name, held⟩ := covered id opened
    have away : a.target? ≠ some name := fun mine => mem (mem_touched.2 (.inr ⟨name, mine, held⟩))
    refine ⟨name, ?_⟩
    rw [h.heldUnder away]
    exact held

theorem Sound.afterAll {actions : List Action} (sound : s.Sound) (once : s.decidesOnce actions) :
    (s.afterAll actions).Sound := by
  induction actions generalizing s with
  | nil => exact sound
  | cons a rest ih =>
    obtain ⟨here, later⟩ := (Bool.and_eq_true _ _).mp once
    exact ih ((step_moves sound a here).sound sound) later

theorem Covered.afterAll {actions : List Action} (covered : s.Covered) (sound : s.Sound)
    (once : s.decidesOnce actions) : (s.afterAll actions).Covered := by
  induction actions generalizing s with
  | nil => exact covered
  | cons a rest ih =>
    obtain ⟨here, later⟩ := (Bool.and_eq_true _ _).mp once
    have moves := step_moves sound a here
    exact ih (moves.covered covered) (moves.sound sound) later

/-- A new client has no cursors, and its pools are empty. -/
theorem sound_new {config : Config} {registry : Registry} {store : Store} {c : Client}
    (made : Client.new config registry store = .ok c) (numbered : store.Numbered) :
    c.store = store ∧ (Session.mk c []).Sound := by
  obtain ⟨_, -, same⟩ := Fallible.bind_eq_ok.1 made
  cases same
  refine ⟨rfl, numbered, fun mode => ?_, fun _ _ found => (nomatch found), fun _ _ _ mem => ?_⟩
  · cases mode <;> exact fun _ mem => absurd mem List.not_mem_nil
  · exact absurd mem List.not_mem_nil

/-- **No cursor leaks.** Whatever a session does, as long as each of its calls makes up its mind
once whether it is late: the cursors that are open on the store are those under the numbers of the
cursors of the session that are not exhausted. Each belongs to one of these, and no connection that
waits to be used again tracks any. Once all cursors of the session are gone, none is open. -/
theorem nothing_leaks {config : Config} {registry : Registry} {store : Store} {c : Client}
    (made : Client.new config registry store = .ok c) (closed : store.cursors = [])
    (positive : 0 < store.nextCursor) (actions : List Action)
    (once : (Session.mk c []).decidesOnce actions) :
    let s := (Session.mk c []).afterAll actions
    (∀ id, (s.client.store.cursors.get? id).isSome ↔
        id ≠ 0 ∧ ∃ name cur, s.cursors.get? name = some cur ∧ cur.id = id) ∧
      (∀ name other cur cur', s.cursors.get? name = some cur → s.cursors.get? other = some cur' →
        cur.id = cur'.id → cur.id ≠ 0 → name = other) ∧
      (∀ mode, ∀ k ∈ (s.client.pool mode).idle, k.cursors = []) ∧
      (s.cursors = [] → s.client.store.cursors = []) := by
  intro s
  have numbered : store.Numbered := by
    refine ⟨positive, fun id opened => ?_⟩
    rw [closed] at opened
    cases opened
  obtain ⟨same, sound⟩ := sound_new made numbered
  have covered : (Session.mk c []).Covered := by
    intro id opened
    have opened : (c.store.cursors.get? id).isSome := opened
    rw [same, closed] at opened
    cases opened
  have covered : s.Covered := covered.afterAll sound once
  have sound : s.Sound := sound.afterAll once
  refine ⟨fun id => ⟨fun opened => ?_, ?_⟩, ?_, sound.tidy, fun gone => ?_⟩
  · obtain ⟨name, mem⟩ := covered id opened
    obtain ⟨cur, found, mem⟩ := mem_heldUnder.1 mem
    obtain ⟨equal, positive⟩ := Cursor.mem_held.1 mem
    exact ⟨positive, name, cur, found, equal⟩
  · rintro ⟨positive, name, cur, found, rfl⟩
    exact (sound.owns name cur found).opened cur.id (Cursor.mem_held.2 ⟨rfl, positive⟩)
  · intro name other cur cur' found found' equal positive
    refine sound.single name other cur.id ?_ ?_
    · exact mem_heldUnder.2 ⟨cur, found, Cursor.mem_held.2 ⟨rfl, positive⟩⟩
    · exact mem_heldUnder.2 ⟨cur', found', Cursor.mem_held.2 ⟨equal.symm, positive⟩⟩
  · refine Dictionary.eq_nil_of_get? fun id => ?_
    by_contra opened
    obtain ⟨name, mem⟩ := covered id (Option.isSome_iff_ne_none.2 opened)
    obtain ⟨cur, found, -⟩ := mem_heldUnder.1 mem
    rw [gone] at found
    cases found

end

/-- A find cursor read in part, a change stream that times out, a blocking caller that comes too
late, and a cursor given up while the store cannot be reached. -/
theorem nothing_leaks_timeouts :
    let config : Config := { pool := { maxSize := 2 }, batchSize := 1 }
    let client : Client :=
      { config, registry := {}, store := { clock := ⟨0, [0, 3]⟩ },
        blockingPool := Client.newPool config.pool, asyncPool := Client.newPool config.pool }
    let reads : Draft := .ofCommand (.ok (.find "c" { filter := .obj [] }))
    let actions : List Action :=
      [.adjust (.seed "c" [.obj [("_id", .int 1)], .obj [("_id", .int 2)], .obj [("_id", .int 3)]]),
        .openCursor "a" .sync reads none,
        .openCursor "w" .async (.ofCommand (.ok (.watch "c" []))) (some 50),
        .take "w" 1, .take "a" 1,
        .adjust (.failNext (.timeout 5)), .openCursor "b" .async reads none,
        .adjust (.setLatency (some 20)), .openCursor "b" .sync reads (some 10),
        .adjust (.setUnreachable true), .drop "w"]
    ((Session.mk client []).afterAll actions).cursors.length = 1 ∧
      ((Session.mk client []).afterAll actions).client.store.cursors.length = 1 ∧
      ∀ id, (((Session.mk client []).afterAll actions).client.store.cursors.get? id).isSome ↔
        id ≠ 0 ∧ ∃ name cur,
          ((Session.mk client []).afterAll actions).cursors.get? name = some cur ∧ cur.id = id := by
  intro config client reads actions
  have made : Client.new config {} { clock := ⟨0, [0, 3]⟩ } = .ok client := rfl
  have once : (Session.mk client []).decidesOnce actions := by decide +kernel
  exact ⟨by decide +kernel, by decide +kernel,
    (nothing_leaks made rfl (by decide) actions once).1⟩

end Session

end DocStore
