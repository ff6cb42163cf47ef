import DeviceLauncher.Proofs.Log.Setup

/-!
# What a log has received in the long run

An `Event` is a call to set up the log, or a record that is emitted. Events follow one another in
any order, and calls may fail.

* Up to the first call that succeeds the log is not set up (`unset_afterAll`).
* From then on its handlers stay what they are, and each of them has received, after what it had,
  one line for each record that was at or above the level at that time (`kept_afterAll`).
* The level is always that of the last call (`level_afterAll`).

`configure_once` puts these together.
-/

namespace DeviceLauncher

namespace Log

/-- Bytes with texts after them. -/
def written (texts : List String) (bytes : ByteArray) : ByteArray :=
  texts.foldl (fun bytes text => bytes ++ text.toUTF8) bytes

theorem map_written_nil (bytes : Option ByteArray) : bytes.map (written []) = bytes :=
  Option.map_id'

theorem map_written_append (texts more : List String) (bytes : Option ByteArray) :
    bytes.map (written (texts ++ more)) = (bytes.map (written texts)).map (written more) := by
  rw [Option.map_map]
  congr 1
  funext b
  exact List.foldl_append

end Log

open Log

namespace Machine

/-! ## One record -/

/-- What has been written through a handler, if it writes to anything that keeps it. -/
def received (m : Machine) : Handler → Option ByteArray
  | .console => some m.stderr
  | .file i => (m.files.file? i).map File.content

variable (m : Machine)

theorem received_deliver_self (text : String) (h : Handler) :
    (m.deliver text h).received h = (m.received h).map (written [text]) := by
  cases h with
  | console => rfl
  | file i =>
    simp only [deliver, received, FileSystem.append, FileSystem.file?_modifyFile_self,
      Option.map_map]
    rfl

theorem received_deliver_of_ne (text : String) {h other : Handler} (hne : other ≠ h) :
    (m.deliver text h).received other = m.received other := by
  cases h with
  | console =>
    cases other with
    | console => exact absurd rfl hne
    | file j => rfl
  | file i =>
    cases other with
    | console => rfl
    | file j =>
      have hj : j ≠ i := fun h => hne (by rw [h])
      simp only [deliver, received, FileSystem.append, FileSystem.file?,
        FileSystem.node?_modifyFile_of_ne _ _ hj]

/-- A handler gets a text as often as it is in the list. -/
theorem received_foldl_deliver (text : String) (hs : List Handler) (h : Handler) :
    (hs.foldl (deliver text) m).received h =
      (m.received h).map (written (List.replicate (hs.count h) text)) := by
  induction hs generalizing m with
  | nil => exact (map_written_nil _).symm
  | cons first hs ih =>
    rw [List.foldl_cons, ih]
    by_cases hf : h = first
    · subst hf
      rw [received_deliver_self, ← map_written_append, List.count_cons_self]
      rfl
    · rw [received_deliver_of_ne m text hf, List.count_cons_of_ne (Ne.symm hf)]

/-- A record that does not pass the level leaves the machine as it is. -/
theorem report_of_not_passes {n : Notice} (h : m.log.passes n.level = false) :
    m.report n = m := by
  simp [report, h]

/-- A record that passes the level gives each handler its line. -/
theorem received_report {n : Notice} (hpass : m.log.passes n.level = true) {h : Handler}
    (hh : h ∈ m.log.handlers) : (m.report n).received h = (m.received h).map
      (written (List.replicate (m.log.handlers.count h) (n.line m.marks))) := by
  have hsome : m.log.handlers.isEmpty = false := by
    cases hs : m.log.handlers with
    | nil => rw [hs] at hh; cases hh
    | cons _ _ => rfl
  simp only [report, hpass, hsome, Bool.false_eq_true, ↓reduceIte]
  rw [received_foldl_deliver]
  cases h <;> rfl

end Machine

namespace Log

/-! ## Events -/

/-- Something that is done to a log. -/
inductive Event where
  | configure (path : Option String) (level : Level) (console : Bool)
  | record (n : Notice)

namespace Event

/-- The machine after an event. A call that fails leaves one, too. -/
def after : Event → Machine → Machine
  | configure path level console, m => Action.after (Log.configure path level console) m
  | record n, m => m.report n

/-- The level after an event: a call sets it, whether or not it fails. -/
def levelFrom (level : Level) : Event → Level
  | configure _ level _ => level
  | record _ => level

/-- Whether an event does not set the log up: a call that fails, or a record. -/
def Fails (m : Machine) : Event → Prop
  | configure path level console => ∃ e m', (Log.configure path level console).run m = .error e m'
  | record _ => True

theorem level_after (e : Event) (m : Machine) :
    (e.after m).log.level = e.levelFrom m.log.level := by
  cases e with
  | record n => exact (m.log_report n).1
  | configure path level console =>
    rw [after]
    cases hsetup : m.log.setup with
    | some chosen => rw [Action.after_of_ok (configure_of_setup path level console hsetup)]; rfl
    | none =>
      rcases configure_cases path level console hsetup with
        ⟨file, files, -, hrun⟩ | ⟨asked, e, -, hrun⟩
      · rw [Action.after_of_ok hrun]; rfl
      · rw [Action.after_of_error hrun]; rfl

end Event

/-- The machine after some events. -/
def afterAll (events : List Event) (m : Machine) : Machine :=
  events.foldl (fun m e => e.after m) m

/-- The level after some events: that of the last call. -/
def levelAfter (level : Level) (events : List Event) : Level := events.foldl Event.levelFrom level

/-- Whether none of some events sets the log up. -/
def AllFail : List Event → Machine → Prop
  | [], _ => True
  | e :: rest, m => e.Fails m ∧ AllFail rest (e.after m)

/-- The records among some events that are at or above the level at which they are emitted. -/
def passing (level : Level) : List Event → List Notice
  | [] => []
  | .configure _ level _ :: rest => passing level rest
  | .record n :: rest =>
    if 0 < n.level ∧ level ≤ n.level then n :: passing level rest else passing level rest

theorem level_afterAll (events : List Event) (m : Machine) :
    (afterAll events m).log.level = levelAfter m.log.level events := by
  induction events generalizing m with
  | nil => rfl
  | cons e rest ih => exact (ih (e.after m)).trans (by rw [e.level_after]; rfl)

/-- Calls that fail attach no handlers, and the log does not count as set up. -/
theorem unset_afterAll {events : List Event} {m : Machine} (hm : m.log.setup = none)
    (h : AllFail events m) : (afterAll events m).log.setup = none ∧
      (afterAll events m).log.handlers = m.log.handlers ∧
      (afterAll events m).marks = m.marks := by
  induction events generalizing m with
  | nil => exact ⟨hm, rfl, rfl⟩
  | cons e rest ih =>
    have hstep : (e.after m).log.setup = none ∧ (e.after m).log.handlers = m.log.handlers ∧
        (e.after m).marks = m.marks := by
      cases e with
      | record n =>
        obtain ⟨-, hsetup, hhandlers, hmarks⟩ := m.log_report n
        exact ⟨hsetup.trans hm, hhandlers, hmarks⟩
      | configure path level console =>
        obtain ⟨e, m', hfail⟩ := h.1
        rcases configure_cases path level console hm with
          ⟨file, files, -, hrun⟩ | ⟨asked, e, -, hrun⟩
        · rw [hfail] at hrun
          cases hrun
        · rw [Event.after, Action.after_of_error hrun]
          exact ⟨hm, rfl, rfl⟩
    obtain ⟨hsetup, hhandlers, hmarks⟩ := ih hstep.1 h.2
    exact ⟨hsetup, hhandlers.trans hstep.2.1, hmarks.trans hstep.2.2⟩

/-- How a log that is set up goes on: its handlers and the path of its file stay, and some notices
have been written. -/
structure Kept (m m' : Machine) (notices : List Notice) : Prop where
  setup : m'.log.setup = m.log.setup
  handlers : m'.log.handlers = m.log.handlers
  marks : m'.marks = m.marks
  received {h : Handler} : h ∈ m.log.handlers → m'.received h = (m.received h).map
    (written (notices.flatMap fun n => List.replicate (m.log.handlers.count h) (n.line m.marks)))

theorem Kept.refl (m : Machine) : Kept m m [] := ⟨rfl, rfl, rfl, fun _ => (map_written_nil _).symm⟩

theorem Kept.trans {m m' m'' : Machine} {first second : List Notice} (h : Kept m m' first)
    (h' : Kept m' m'' second) : Kept m m'' (first ++ second) := by
  refine ⟨h'.setup.trans h.setup, h'.handlers.trans h.handlers, h'.marks.trans h.marks,
    fun {x} hx => ?_⟩
  rw [h'.received (h.handlers ▸ hx), h.received hx, List.flatMap_append, map_written_append,
    h.handlers, h.marks]

theorem kept_configure {m : Machine} {chosen : Option String} (hm : m.log.setup = some chosen)
    (path : Option String) (level : Level) (console : Bool) :
    Kept m (Event.after (.configure path level console) m) [] := by
  rw [Event.after, Action.after_of_ok (configure_of_setup path level console hm)]
  exact ⟨rfl, rfl, rfl, fun {h} _ => by cases h <;> exact (map_written_nil _).symm⟩

theorem kept_record (m : Machine) (n : Notice) :
    Kept m (m.report n) (if m.log.passes n.level then [n] else []) := by
  cases hpass : m.log.passes n.level with
  | false =>
    rw [m.report_of_not_passes hpass]
    exact .refl m
  | true =>
    obtain ⟨-, hsetup, hhandlers, hmarks⟩ := m.log_report n
    refine ⟨hsetup, hhandlers, hmarks, fun {h} hh => ?_⟩
    rw [m.received_report hpass hh]
    simp

/-- The handlers of a log that is set up stay, and get the records that pass. -/
theorem kept_afterAll (events : List Event) {m : Machine} {chosen : Option String}
    (hm : m.log.setup = some chosen) :
    Kept m (afterAll events m) (passing m.log.level events) := by
  -- `Kept` composes, and the level at which the rest starts is the one that the event has left.
  induction events generalizing m with
  | nil => exact .refl m
  | cons e rest ih =>
    cases e with
    | configure path level console =>
      have hstep := kept_configure hm path level console
      have hrest := ih (hstep.setup.trans hm)
      rw [Event.level_after] at hrest
      exact hstep.trans hrest
    | record n =>
      have hstep := kept_record m n
      have hrest := ih (hstep.setup.trans hm)
      rw [(m.log_report n).1] at hrest
      have hpassing : passing m.log.level (.record n :: rest) =
          (if m.log.passes n.level then [n] else []) ++ passing m.log.level rest := by
        simp only [passing, State.passes, Bool.and_eq_true, decide_eq_true_eq]
        split <;> rfl
      rw [hpassing]
      exact hstep.trans hrest

/-! ## Setting up once -/

theorem Event.logChanged_after (e : Event) (m : Machine) : m.LogChanged (e.after m) := by
  cases e with
  | configure path level console => exact logChanged_configure path level console m
  | record n => exact (Machine.logged_report n m).logChanged

theorem logChanged_afterAll (events : List Event) (m : Machine) :
    m.LogChanged (afterAll events m) := by
  induction events generalizing m with
  | nil => exact .refl m
  | cons e rest ih => exact (e.logChanged_after m).trans (ih (e.after m))

/-- A file is never the error stream. -/
theorem nodup_newHandlers (file : Option (Inode × String)) (console : Bool) :
    (newHandlers file console).Nodup := by
  cases file <;> cases console <;> simp [newHandlers]

theorem exists_of_file_mem_newHandlers {file : Option (Inode × String)} {console : Bool} {i : Inode}
    (h : .file i ∈ newHandlers file console) : ∃ chosen, file = some (i, chosen) := by
  cases file with
  | none => cases console <;> simp [newHandlers] at h
  | some f =>
    obtain ⟨j, chosen⟩ := f
    obtain rfl : i = j := by cases console <;> simpa [newHandlers] using h
    exact ⟨chosen, rfl⟩

/-- Of the handlers that a call adds to the log, one that was not there is there once. -/
theorem count_newHandlers {file : Option (Inode × String)} {console : Bool} {h : Handler}
    {before : List Handler} (hh : h ∈ newHandlers file console) (hbefore : h ∉ before) :
    (before ++ newHandlers file console).count h = 1 := by
  rw [List.count_append, List.count_eq_zero_of_not_mem hbefore,
    List.count_eq_one_of_mem (nodup_newHandlers file console) hh]

/-- Whatever is asked of a log that has not been set up, it is set up once.

* Calls that fail leave it with the handlers that it had, and it does not count as set up.
* The first call that succeeds adds a file if a path is given, and the error stream if that is asked
  for. What is written through these stays, except on the device that forgets everything.
* Afterwards the handlers stay. Every other call succeeds, gives the same path, and only sets the
  level.
* Each record that is emitted then, and is at or above the level at that time, is written once to
  each handler that was added. Nothing else is. -/
theorem configure_once (before : List Event) {m : Machine} (hwf : m.files.WellFormed)
    (hm : m.log.setup = none) (hbefore : AllFail before m) {path : Option String} {level : Level}
    {console : Bool} {chosen : Option String} {m₁ : Machine}
    (hfirst : (configure path level console).run (afterAll before m) = .ok chosen m₁) :
    ((afterAll before m).log.setup = none ∧ (afterAll before m).log.handlers = m.log.handlers ∧
      (afterAll before m).log.level = levelAfter m.log.level before) ∧
    ∃ file : Option (Inode × String), (file.isSome ↔ ∃ p, path = some p ∧ p ≠ "") ∧
      chosen = file.map Prod.snd ∧ m₁.log.handlers = m.log.handlers ++ newHandlers file console ∧
      (∀ h ∈ newHandlers file console,
        (m₁.received h).isSome ∨ ∃ i, h = .file i ∧ m₁.files.node? i = some .null) ∧
      ∀ after, let m₂ := afterAll after m₁
        m₂.log.level = levelAfter level after ∧ Kept m₁ m₂ (passing level after) ∧
        (∀ path level console,
          (configure path level console).run m₂ = .ok chosen (m₂.setLevel level)) ∧
        ∀ h ∈ newHandlers file console, h ∉ m.log.handlers →
          m₂.received h = (m₁.received h).map
            (written ((passing level after).map (Notice.line m.marks))) := by
  obtain ⟨hsetup, hhandlers, hmarks⟩ := unset_afterAll hm hbefore
  refine ⟨⟨hsetup, hhandlers, level_afterAll before m⟩, ?_⟩
  have hwf₀ := (logChanged_afterAll before m).wellFormed hwf
  rcases configure_cases path level console hsetup with
    ⟨file, files, hopens, hrun⟩ | ⟨asked, e, -, hrun⟩
  swap
  · -- A call that fails is not the first one that succeeds.
    rw [hrun] at hfirst
    cases hfirst
  rw [hrun, EStateM.Result.ok.injEq] at hfirst
  obtain ⟨rfl, h₁⟩ := hfirst
  have hhandlers₁ : m₁.log.handlers = m.log.handlers ++ newHandlers file console := by
    rw [← hhandlers, ← h₁]
    rfl
  have hsetup₁ : m₁.log.setup = some (file.map Prod.snd) := by rw [← h₁]; rfl
  have hlevel₁ : m₁.log.level = level := by rw [← h₁]; rfl
  have hmarks₁ : m₁.marks = m.marks := by rw [← hmarks, ← h₁]; rfl
  have hfiles₁ : m₁.files = files := by rw [← h₁]; rfl
  refine ⟨file, ?_, rfl, hhandlers₁, ?_, fun after => ?_⟩
  · rw [hopens.isSome_eq]
    exact isSome_askedPath
  · intro h hh
    cases h with
    | console => exact .inl rfl
    | file i =>
      obtain ⟨chosen, rfl⟩ := exists_of_file_mem_newHandlers hh
      rw [Machine.received, Option.isSome_map, hfiles₁]
      exact (hopens.file_or_null hwf₀).imp_right fun hnull => ⟨i, rfl, hnull⟩
  · have hkept := kept_afterAll after hsetup₁
    have hlevel := level_afterAll after m₁
    rw [hlevel₁] at hkept hlevel
    refine ⟨hlevel, hkept, fun path level console =>
      configure_of_setup path level console (hkept.setup.trans hsetup₁), fun h hh hnew => ?_⟩
    have hmem : h ∈ m₁.log.handlers := hhandlers₁ ▸ List.mem_append_right _ hh
    rw [hkept.received hmem, hhandlers₁, count_newHandlers hh hnew, hmarks₁]
    simp only [List.replicate_one, List.map_eq_flatMap]

/-- A log that could not be set up with a path that no file can have is set up by the next call. -/
theorem configure_once_after_failure :
    let m := Machine.idle .empty .empty []
    let before := [Event.configure (some "\x00") 10 false]
    m.files.WellFormed ∧ m.log.setup = none ∧ AllFail before m ∧
      ∃ m₁, (configure (some "/l") 20 true).run (afterAll before m) = .ok (some "/l") m₁ ∧
        ∀ after, (afterAll after m₁).received (.file 1) =
          some (written ((passing 20 after).map (Notice.line m.marks)) ByteArray.empty) := by
  intro m before
  have hbefore : AllFail before m := ⟨⟨.nul, _, by cbv⟩, trivial⟩
  obtain ⟨m₁, hfirst, hhandlers, hempty⟩ : ∃ m₁,
      (configure (some "/l") 20 true).run (afterAll before m) = .ok (some "/l") m₁ ∧
        m₁.log.handlers = [.file 1, .console] ∧
          m₁.received (.file 1) = some ByteArray.empty := by
    refine ⟨_, by cbv, ?_, ?_⟩
    · rfl
    · cbv
  obtain ⟨-, file, -, -, hnew, -, hafter⟩ :=
    configure_once before .empty rfl hbefore hfirst
  have hfile : .file 1 ∈ newHandlers file true := by
    have hmem : .file 1 ∈ m₁.log.handlers := hhandlers ▸ List.mem_cons_self
    rwa [hnew] at hmem
  refine ⟨.empty, rfl, hbefore, m₁, hfirst, fun after => ?_⟩
  obtain ⟨-, -, -, hreceived⟩ := hafter after
  rw [hreceived _ hfile List.not_mem_nil, hempty]
  rfl

end Log

end DeviceLauncher
