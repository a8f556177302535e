import DocStore.Client.Session
import DocStore.Proofs.Client.Reading
import Mathlib.Data.List.Forall2

/-!
# Sessions in both modes

Two sessions of the same steps, one in each mode, on stores that are the same at first: every step
has the same outcome in both, and leaves the same behind, as long as no deadline passes
(`Session.modes_agree`). The clocks by which the calls are timed may go as they like in the two
stores. The times that their events are stamped with come from a calendar apart from these clocks,
and both stores need to have the same one: otherwise the events of the same step differ
(`Session.stamps_differ`).
-/

namespace DocStore

/-- Stores that are the same but for their clocks, for the numbers of their connections, and for
the times that their events will be stamped with. -/
def Store.Twins (s t : Store) : Prop :=
  ∃ clock blocking async calendar, t = { s.under clock blocking async with calendar }

theorem Store.Twins.alike {s t : Store} (twins : s.Twins t) (stamps : t.calendar = s.calendar) :
    s.Alike t := by
  obtain ⟨clock, blocking, async, calendar, rfl⟩ := twins
  obtain rfl : calendar = s.calendar := stamps
  exact ⟨clock, blocking, async, rfl⟩

/-! ## Steps in a mode -/

namespace Action

/-- The same step in the other mode. -/
def swap : Action → Action
  | .run mode draft limit single => .run mode.swap draft limit single
  | .openCursor name mode draft limit => .openCursor name mode.swap draft limit
  | a => a

/-- The same step in a mode. -/
def inMode (mode : Mode) : Action → Action
  | .run _ draft limit single => .run mode draft limit single
  | .openCursor name _ draft limit => .openCursor name mode draft limit
  | a => a

/-- How many milliseconds a step says that its calls may take. -/
def limit? : Action → Option Nat
  | .run _ _ limit _ => limit
  | .openCursor _ _ _ limit => limit
  | _ => none

theorem swap_inMode (mode : Mode) (a : Action) : (a.inMode mode).swap = a.inMode mode.swap := by
  cases a <;> rfl

end Action

namespace Session

/-- The steps of a session, each with its answer and what it leaves. -/
def trace : Session → List Action → List (Outcome × Session)
  | _, [] => []
  | s, a :: rest => s.step a :: trace (s.step a).2 rest

/-- Whether no deadline passes in a step. -/
def stepInTime (s : Session) : Action → Bool
  | .run mode draft limit _ =>
    match s.draw draft with
    | .error _ => true
    | .ok (command, s) =>
      s.client.inTime (s.limitOf limit) (s.client.run mode command (s.limitOf limit)).2
  | .openCursor _ mode draft limit =>
    match s.draw draft with
    | .error _ => true
    | .ok (command, s) =>
      s.client.inTime (s.limitOf limit) (s.client.openCursor mode command (s.limitOf limit)).2
  | .take name n =>
    match s.cursors.get? name with
    | none => true
    | some cursor => cursor.takeInTime n s.client
  | .readOut name =>
    match s.cursors.get? name with
    | none => true
    | some cursor => cursor.readOutInTime (s.client.store.pending cursor.id + 1) s.client
  | .drop _ | .close | .adjust _ => true

/-- Whether no deadline passes in the steps of a session. -/
def inTime : Session → List Action → Bool
  | _, [] => true
  | s, a :: rest => s.stepInTime a && inTime (s.step a).2 rest

/-- The steps of a session end before their deadlines, and these can be told: a limit has 64 bits of
milliseconds. -/
structure Punctual (s : Session) (actions : List Action) : Prop where
  fits : ∀ a ∈ actions, ∀ ms ∈ a.limit?, FitsNat64 ms
  inTime : s.inTime actions

/-- What one session has done in a mode the other has done in the other mode. -/
structure Mirrors (s t : Session) : Prop where
  client : s.client.Mirrors t.client
  cursors : t.cursors = s.cursors.mapValues Cursor.swap

/-- What steps of sessions that mirror each other have in common. -/
structure SameStep (r r' : Outcome × Session) : Prop where
  outcome : r'.1 = r.1
  session : r.2.Mirrors r'.2

variable {s t : Session}

theorem Mirrors.get? (h : s.Mirrors t) (name : String) :
    t.cursors.get? name = (s.cursors.get? name).map Cursor.swap := by
  rw [h.cursors, Dictionary.get?_mapValues]

theorem Mirrors.limitOf (h : s.Mirrors t) (limit : Option Nat) : t.limitOf limit = s.limitOf limit := by
  unfold Session.limitOf
  rw [h.client.config]

/-- Sessions that mirror each other make the same command of a draft. -/
theorem Mirrors.draw (h : s.Mirrors t) (draft : Draft) :
    (∃ e, s.draw draft = .error e ∧ t.draw draft = .error e) ∨
      ∃ command s' t', s.draw draft = .ok (command, s') ∧ t.draw draft = .ok (command, t') ∧
        s'.Mirrors t' := by
  have alike := h.client.store
  have ids : t.client.store.ids = s.client.store.ids := by
    obtain ⟨_, _, _, e⟩ := alike
    rw [e]
    rfl
  unfold Session.draw
  dsimp only
  rw [ids]
  cases draft s.client.store.ids with
  | error e => exact .inl ⟨e, rfl, rfl⟩
  | ok made =>
    refine .inr ⟨made.1, _, _, rfl, rfl, h.client.withStore ?_, h.cursors⟩
    obtain ⟨clock, blocking, async, e⟩ := alike
    rw [e]
    exact ⟨clock, blocking, async, rfl⟩

theorem run_mirrors (h : s.Mirrors t) (mode : Mode) (draft : Draft) (limit : Option Nat)
    (single : Bool) (inTime : s.stepInTime (.run mode draft limit single))
    (inTime' : t.stepInTime (.run mode.swap draft limit single)) :
    SameStep (s.run mode draft limit single) (t.run mode.swap draft limit single) := by
  dsimp only [stepInTime] at inTime inTime'
  unfold run
  rcases h.draw draft with ⟨e, hs, ht⟩ | ⟨command, s', t', hs, ht, drawn⟩
  · rw [hs, ht]
    exact ⟨rfl, h⟩
  · rw [hs] at inTime ⊢
    rw [ht] at inTime' ⊢
    dsimp only at inTime inTime' ⊢
    rw [drawn.limitOf] at inTime' ⊢
    obtain ⟨same, mirrors⟩ := Client.run_mirrors drawn.client mode command inTime inTime'
    rw [← same]
    exact ⟨rfl, mirrors, drawn.cursors⟩

theorem dropCursor_mirrors (h : s.Mirrors t) (name : String) :
    (s.dropCursor name).Mirrors (t.dropCursor name) := by
  unfold dropCursor
  rw [h.get? name]
  cases s.cursors.get? name with
  | none => exact h
  | some cursor =>
    refine ⟨cursor.drop_mirrors h.client, ?_⟩
    show Dictionary.erase name t.cursors = _
    rw [h.cursors, Dictionary.erase_mapValues]

theorem openCursor_mirrors (h : s.Mirrors t) (name : String) (mode : Mode) (draft : Draft)
    (limit : Option Nat) (inTime : s.stepInTime (.openCursor name mode draft limit))
    (inTime' : t.stepInTime (.openCursor name mode.swap draft limit)) :
    SameStep (s.openCursor name mode draft limit) (t.openCursor name mode.swap draft limit) := by
  dsimp only [stepInTime] at inTime inTime'
  unfold openCursor
  rcases h.draw draft with ⟨e, hs, ht⟩ | ⟨command, s', t', hs, ht, drawn⟩
  · rw [hs, ht]
    exact ⟨rfl, h⟩
  · rw [hs] at inTime ⊢
    rw [ht] at inTime' ⊢
    dsimp only at inTime inTime' ⊢
    rw [drawn.limitOf] at inTime' ⊢
    obtain ⟨same, mirrors⟩ := Client.openCursor_mirrors drawn.client mode command inTime inTime'
    revert same mirrors
    obtain ⟨r, c⟩ := s'.client.openCursor mode command (s'.limitOf limit)
    obtain ⟨r', d⟩ := t'.client.openCursor mode.swap command (s'.limitOf limit)
    intro same mirrors
    obtain rfl : r' = r.map Cursor.swap := same
    cases r with
    | error response => exact ⟨rfl, mirrors, drawn.cursors⟩
    | ok cursor =>
      have opened : Mirrors { s' with client := c } { t' with client := d } :=
        ⟨mirrors, drawn.cursors⟩
      have dropped := dropCursor_mirrors opened name
      refine ⟨rfl, dropped.client, ?_⟩
      show Dictionary.insert name cursor.swap (dropCursor { t' with client := d } name).cursors = _
      rw [dropped.cursors, Dictionary.insert_mapValues]

theorem take_mirrors (h : s.Mirrors t) (name : String) (n : Nat)
    (inTime : s.stepInTime (.take name n)) (inTime' : t.stepInTime (.take name n)) :
    SameStep (s.take name n) (t.take name n) := by
  dsimp only [stepInTime] at inTime inTime'
  unfold take
  rw [h.get? name] at inTime' ⊢
  cases found : s.cursors.get? name with
  | none => exact ⟨rfl, h⟩
  | some cursor =>
    rw [found] at inTime inTime'
    have same := cursor.take_mirrors n h.client inTime inTime'
    dsimp only [Option.map_some]
    rw [same.answer, same.cursor]
    refine ⟨rfl, same.client, ?_⟩
    dsimp only
    rw [h.cursors, Dictionary.insert_mapValues]

theorem readOut_mirrors (h : s.Mirrors t) (name : String) (inTime : s.stepInTime (.readOut name))
    (inTime' : t.stepInTime (.readOut name)) : SameStep (s.readOut name) (t.readOut name) := by
  dsimp only [stepInTime] at inTime inTime'
  unfold readOut
  rw [h.get? name] at inTime' ⊢
  cases found : s.cursors.get? name with
  | none => exact ⟨rfl, h⟩
  | some cursor =>
    rw [found] at inTime inTime'
    obtain ⟨same, mirrors⟩ := cursor.toList_mirrors h.client inTime inTime'
    dsimp only [Option.map_some]
    rw [same]
    refine ⟨rfl, mirrors, ?_⟩
    dsimp only
    rw [h.cursors, Dictionary.erase_mapValues]

/-- **A step has the same outcome in both modes, if no deadline passes.** -/
theorem step_mirrors (h : s.Mirrors t) (a : Action) (inTime : s.stepInTime a)
    (inTime' : t.stepInTime a.swap) : SameStep (s.step a) (t.step a.swap) := by
  cases a with
  | run mode draft limit single => exact run_mirrors h mode draft limit single inTime inTime'
  | openCursor name mode draft limit =>
    exact openCursor_mirrors h name mode draft limit inTime inTime'
  | take name n => exact take_mirrors h name n inTime inTime'
  | readOut name => exact readOut_mirrors h name inTime inTime'
  | drop name =>
    have found : (t.cursors.get? name).isSome = (s.cursors.get? name).isSome := by
      rw [h.get? name, Option.isSome_map]
    show SameStep
      (if (s.cursors.get? name).isSome then (.done, s.dropCursor name) else (.noCursor, s))
      (if (t.cursors.get? name).isSome then (.done, t.dropCursor name) else (.noCursor, t))
    rw [found]
    by_cases some : (s.cursors.get? name).isSome
    · rw [if_pos some, if_pos some]
      exact ⟨rfl, dropCursor_mirrors h name⟩
    · rw [if_neg some, if_neg some]
      exact ⟨rfl, h⟩
  | close => exact ⟨rfl, h.client.close, h.cursors⟩
  | adjust adjustment =>
    have alike := ((Store.timeless_adjust adjustment).alike h.client.store).2
    exact ⟨rfl, h.client.withStore alike, h.cursors⟩

/-! ## Runs -/

/-- Sessions that mirror each other go through the same steps in opposite modes with the same
outcomes. -/
theorem trace_mirrors (h : s.Mirrors t) (actions : List Action) (inTime : s.inTime actions)
    (inTime' : t.inTime (actions.map Action.swap)) :
    List.Forall₂ SameStep (s.trace actions) (t.trace (actions.map Action.swap)) := by
  induction actions generalizing s t with
  | nil => exact .nil
  | cons a rest ih =>
    obtain ⟨first, later⟩ := (Bool.and_eq_true _ _).mp inTime
    obtain ⟨first', later'⟩ := (Bool.and_eq_true _ _).mp inTime'
    have same := step_mirrors h a first first'
    exact .cons same (ih same.session later later')

/-- New clients on stores that are alike mirror each other. -/
theorem mirrors_new {config : Config} {registry : Registry} {s t : Store} (alike : s.Alike t)
    {c d : Client} (hc : Client.new config registry s = .ok c)
    (hd : Client.new config registry t = .ok d) : (Session.mk c []).Mirrors (Session.mk d []) := by
  unfold Client.new at hc hd
  cases valid : config.validate with
  | error e =>
    rw [valid] at hc
    cases hc
  | ok =>
    rw [valid] at hc hd
    cases hc
    cases hd
    exact ⟨⟨rfl, rfl, alike, fun mode => by cases mode <;> rfl, rfl⟩, rfl⟩

/-- What a step of a session that blocks its callers and one that suspends them have in common:
the answer, the record of the calls up to the mode, the documents, events and cursors in the store,
and the pool of the mode, with its counters. -/
structure Agree (blocking suspended : Outcome × Session) : Prop where
  outcome : suspended.1 = blocking.1
  records : suspended.2.client.records = blocking.2.client.records.map CallRecord.swap
  collections : suspended.2.client.store.collections = blocking.2.client.store.collections
  events : suspended.2.client.store.events = blocking.2.client.store.events
  cursors : suspended.2.client.store.cursors = blocking.2.client.store.cursors
  pool : suspended.2.client.asyncPool = blocking.2.client.blockingPool

theorem SameStep.agree {r r' : Outcome × Session} (h : SameStep r r') : Agree r r' := by
  have mirrors := h.session.client
  obtain ⟨_, _, _, alike⟩ := mirrors.store
  refine ⟨h.outcome, mirrors.records, ?_, ?_, ?_, mirrors.pool .sync⟩
  · rw [alike]
    rfl
  · rw [alike]
    rfl
  · rw [alike]
    rfl

/-- **A session does the same in both modes, step by step, if no deadline passes** and the events of
the two stores are stamped with the same times. -/
theorem modes_agree {config : Config} {registry : Registry} {s t : Store} (twins : s.Twins t)
    (stamps : t.calendar = s.calendar)
    {c d : Client} (hc : Client.new config registry s = .ok c)
    (hd : Client.new config registry t = .ok d) (actions : List Action)
    (punctual : (Session.mk c []).Punctual (actions.map (Action.inMode .sync)))
    (punctual' : (Session.mk d []).Punctual (actions.map (Action.inMode .async))) :
    List.Forall₂ Agree ((Session.mk c []).trace (actions.map (Action.inMode .sync)))
      ((Session.mk d []).trace (actions.map (Action.inMode .async))) := by
  have swapped : (actions.map (Action.inMode .sync)).map Action.swap =
      actions.map (Action.inMode .async) := by
    rw [List.map_map]
    exact List.map_congr_left fun a _ => Action.swap_inMode .sync a
  have mirrors := mirrors_new (twins.alike stamps) hc hd
  have inTime' := punctual'.inTime
  rw [← swapped] at inTime' ⊢
  exact (trace_mirrors mirrors _ punctual.inTime inTime').imp fun _ _ => SameStep.agree

/-- A cursor that waits for changes, a fault, and an insertion that the cursor then sees, with a
deadline for every call. The calls are timed by clocks that show different times, and the insertion
is stamped with the same time in both stores. -/
theorem modes_agree_watch :
    let config : Config := { deadlineMs := some 100 }
    let client (s : Store) : Client :=
      { config, registry := {}, store := s, blockingPool := Client.newPool config.pool,
        asyncPool := Client.newPool config.pool }
    let actions : List Action :=
      [.openCursor "w" .sync (.ofCommand (.ok (.watch "c" []))) (some 50),
        .adjust (.failNext (.timeout 3)),
        .run .sync (.ofCommand (.ok (.count "c" (.obj [])))) none false,
        .run .sync (.ofCommand (.ok (.insert "c" [.obj [("_id", .str "a")]] true))) none false,
        .take "w" 1, .close]
    List.Forall₂ Agree
      ((Session.mk (client { latency := some 5, clock := ⟨0, [1, 2]⟩ }) []).trace
        (actions.map (Action.inMode .sync)))
      ((Session.mk (client { latency := some 5, clock := ⟨1000, []⟩ }) []).trace
        (actions.map (Action.inMode .async))) := by
  intro config client actions
  have made (s : Store) : Client.new config {} s = .ok (client s) := rfl
  exact modes_agree ⟨⟨1000, []⟩, 0, 0, _, rfl⟩ rfl (made _) (made _) actions
    ⟨by decide +kernel, by decide +kernel⟩ ⟨by decide +kernel, by decide +kernel⟩

/-- The same insertion into two stores that are the same but for the time of day leaves events that
differ. -/
theorem stamps_differ :
    let client (s : Store) : Client :=
      { config := {}, registry := {}, store := s, blockingPool := Client.newPool {},
        asyncPool := Client.newPool {} }
    let later : Store := { calendar := fun _ => 1750000000001 }
    let actions : List Action :=
      [.run .sync (.ofCommand (.ok (.insert "c" [.obj [("_id", .str "a")]] true))) none false]
    Store.Twins {} later ∧ Client.new {} {} {} = .ok (client {}) ∧
      Client.new {} {} later = .ok (client later) ∧
      (Session.mk (client {}) []).Punctual (actions.map (Action.inMode .sync)) ∧
      (Session.mk (client later) []).Punctual (actions.map (Action.inMode .async)) ∧
      ¬ List.Forall₂ Agree ((Session.mk (client {}) []).trace (actions.map (Action.inMode .sync)))
        ((Session.mk (client later) []).trace (actions.map (Action.inMode .async))) := by
  intro client later actions
  refine ⟨⟨{}, 0, 0, fun _ => 1750000000001, rfl⟩, rfl, rfl,
    ⟨by decide +kernel, by decide +kernel⟩, ⟨by decide +kernel, by decide +kernel⟩, fun agree => ?_⟩
  obtain ⟨same, -⟩ := List.forall₂_cons.1 agree
  have times := congrArg (List.map ChangeEvent.time) same.events
  revert times
  decide +kernel

end Session

end DocStore
