import DeviceLauncher.Pipeline
import Mathlib.Data.List.Basic

/-!
# What a pipeline calls, and what it comes to

A pipeline is observed by running it on steps that write down their calls (`Step.traced`), over a state
that keeps what the pipeline reports (`Traced`). `account` is what is seen of a run in this way.

* `Covers`: calls of the shortest beginning of some steps that ends with one that does not end well.
* `outcome`, `records`: what a pipeline comes to and reports, told from its calls alone.
* `follow`: the calls of a pipeline and the state it leaves, step by step. Both the pipeline
  (`run_runFrom`) and what is seen of it (`run_runFrom_traced`) are told by it.
* `run_short_circuits`: the account of a pipeline, and of two pipelines in a row.
-/

namespace DeviceLauncher.Pipeline

variable {κ ε σ : Type}

/-! ## Accounts -/

/-- A call of a step, with the context that the step is given and what it comes to. -/
structure Call (κ ε σ : Type) where
  step : Step κ ε σ
  context : κ
  answer : Except ε Status

/-- Whether the step ended with zero. -/
def Call.endedWell (c : Call κ ε σ) : Bool :=
  match c.answer with
  | .ok s => s.isZero
  | .error _ => false

/-- A state, with the steps that were called on it and what was reported beside them. -/
structure Traced (κ ε σ : Type) where
  state : σ
  calls : List (Call κ ε σ)
  log : List Log.Notice

/-- A call, with the state that it leaves. -/
def Traced.call (t : Traced κ ε σ) (c : Call κ ε σ) (state : σ) : Traced κ ε σ :=
  { t with state, calls := t.calls ++ [c] }

/-- A step that does the same and writes down how it was called. -/
def Step.traced (step : Step κ ε σ) : Step κ ε (Traced κ ε σ) where
  id := step.id
  run context t :=
    match (step.run context).run t.state with
    | .ok s state => .ok s (t.call ⟨step, context, .ok s⟩ state)
    | .error e state => .error e (t.call ⟨step, context, .error e⟩ state)

@[simp]
theorem Step.id_traced (step : Step κ ε σ) : step.traced.id = step.id := rfl

/-- What is seen of a run. -/
structure Account (κ ε σ : Type) extends Traced κ ε σ where
  answer : Except ε Result

/-- A failure or a value, with the state that is left. -/
def withState {α : Type} (answer : Except ε α) (s : σ) : EStateM.Result ε σ α :=
  match answer with
  | .ok a => .ok a s
  | .error e => .error e s

/-! ## What follows from the calls -/

/-- Whether calls, all with one context, are those of the shortest beginning of some steps that ends
with a step that does not end well, and of all the steps if there is no such step. -/
structure Covers (context : κ) (steps : List (Step κ ε σ)) (calls : List (Call κ ε σ)) : Prop where
  context : ∀ c ∈ calls, c.context = context
  inOrder : calls.map Call.step <+: steps
  endedWell : ∀ c ∈ calls.dropLast, c.endedWell = true
  whole : (∀ c ∈ calls.getLast?, c.endedWell = true) → calls.map Call.step = steps

/-- What a pipeline comes to by its calls, behind others whose names and last status are given. -/
def outcomeFrom (ran : List String) (status : Status) (calls : List (Call κ ε σ)) :
    Except ε Result :=
  match calls.getLast? with
  | none => .ok ⟨status, ran, none⟩
  | some last => last.answer.map fun s =>
    ⟨s, ran ++ calls.map (·.step.id), if s.isZero then none else some last.step.id⟩

/-- What a pipeline comes to by its calls. -/
def outcome (calls : List (Call κ ε σ)) : Except ε Result := outcomeFrom [] (.code 0) calls

/-- What a pipeline reports about its last step, if that ended with a status. -/
def lastRecord (calls : List (Call κ ε σ)) : List Log.Notice :=
  match calls.getLast? with
  | some ⟨step, _, .ok s⟩ => if s.isZero then [] else [.stepFailed step.id s]
  | _ => []

/-- What a pipeline reports by its calls. -/
def records (calls : List (Call κ ε σ)) : List Log.Notice :=
  calls.map (fun c => .runningStep c.step.id) ++ lastRecord calls

section

variable {c : Call κ ε σ} {calls rest : List (Call κ ε σ)}

theorem outcomeFrom_cons {s : Status} (h : c.answer = .ok s) (hs : s.isZero = true)
    (ran : List String) (status : Status) :
    outcomeFrom ran status (c :: calls) = outcomeFrom (ran ++ [c.step.id]) s calls := by
  cases calls with
  | nil => simp [outcomeFrom, h, hs, Except.map]
  | cons d calls => simp [outcomeFrom, List.getLast?_cons]

theorem records_cons (h : c.endedWell = true) :
    records (c :: calls) = .runningStep c.step.id :: records calls := by
  cases calls with
  | nil =>
    obtain ⟨step, context, answer⟩ := c
    cases answer with
    | error e => cases h
    | ok s => simp [records, lastRecord, show s.isZero = true from h]
  | cons d calls => simp [records, lastRecord, List.getLast?_cons_cons]

theorem exists_answer_of_endedWell (h : c.endedWell = true) :
    ∃ s, c.answer = .ok s ∧ s.isZero = true := by
  unfold Call.endedWell at h
  split at h
  · next s hs => exact ⟨s, hs, h⟩
  · cases h

/-! ### Calls that all ended well -/

/-- Calls that ended well come to a good result, and others behind them start from it. -/
theorem exists_outcomeFrom_append (h : calls.all Call.endedWell = true) (ran : List String)
    {status : Status} (hstatus : status.isZero = true) :
    ∃ r : Result, r.ok = true ∧ outcomeFrom ran status calls = .ok r ∧
      ∀ rest : List (Call κ ε σ),
        outcomeFrom ran status (calls ++ rest) = outcomeFrom r.ranSteps r.returncode rest := by
  induction calls generalizing ran status with
  | nil => exact ⟨⟨status, ran, none⟩, hstatus, rfl, fun _ => rfl⟩
  | cons c calls ih =>
    rw [List.all_cons, Bool.and_eq_true] at h
    obtain ⟨s, hanswer, hs⟩ := exists_answer_of_endedWell h.1
    obtain ⟨r, hok, hr, hrest⟩ := ih h.2 (ran ++ [c.step.id]) hs
    refine ⟨r, hok, ?_, fun rest => ?_⟩
    · rw [outcomeFrom_cons hanswer hs, hr]
    · rw [List.cons_append, outcomeFrom_cons hanswer hs, hrest]

theorem records_append (h : calls.all Call.endedWell = true) (rest : List (Call κ ε σ)) :
    records (calls ++ rest) = records calls ++ records rest := by
  induction calls with
  | nil => rfl
  | cons c calls ih =>
    rw [List.all_cons, Bool.and_eq_true] at h
    rw [List.cons_append, records_cons h.1, records_cons h.1, ih h.2, List.cons_append]

/-- What was there before shows in the names, and in the status if there are no calls. -/
theorem outcomeFrom_eq_map (ran : List String) (status : Status) :
    outcomeFrom ran status calls = (outcome calls).map fun r =>
      ⟨if calls.isEmpty then status else r.returncode, ran ++ r.ranSteps, r.failedStep⟩ := by
  cases calls with
  | nil => simp [outcome, outcomeFrom, Except.map]
  | cons c calls =>
    simp only [outcome, outcomeFrom, List.getLast?_cons]
    cases (calls.getLast?.getD c).answer <;> simp [Except.map]

/-- A result is good if it names no step that failed. -/
theorem ok_iff_failedStep_of_outcomeFrom {ran : List String} {status : Status}
    (hstatus : status.isZero = true) {r : Result} (h : outcomeFrom ran status calls = .ok r) :
    r.ok = true ↔ r.failedStep = none := by
  unfold outcomeFrom at h
  split at h
  · cases h
    exact iff_of_true hstatus rfl
  · next last hlast =>
    cases hanswer : last.answer with
    | error e =>
      rw [hanswer] at h
      cases h
    | ok s =>
      rw [hanswer] at h
      cases h
      by_cases hs : s.isZero = true <;> simp [Result.ok, hs]

namespace Covers

variable {context : κ} {steps : List (Step κ ε σ)}

/-- A call that did not end well is the last one. -/
theorem stop (step : Step κ ε σ) (answer : Except ε Status)
    (h : Call.endedWell ⟨step, context, answer⟩ = false) :
    Covers context (step :: steps) [⟨step, context, answer⟩] where
  context := by simp
  inOrder := List.prefix_append [step] steps
  endedWell := nofun
  whole hwell := by
    have hlast := hwell ⟨step, context, answer⟩ rfl
    rw [h] at hlast
    cases hlast

/-- A call that ended well is followed by those of the other steps. -/
theorem cons (step : Step κ ε σ) {answer : Except ε Status}
    (hwell : Call.endedWell ⟨step, context, answer⟩ = true) (h : Covers context steps calls) :
    Covers context (step :: steps) (⟨step, context, answer⟩ :: calls) where
  context := List.forall_mem_cons.2 ⟨rfl, h.context⟩
  inOrder := List.cons_prefix_cons.2 ⟨rfl, h.inOrder⟩
  endedWell := by
    cases calls with
    | nil => exact nofun
    | cons d calls => exact List.forall_mem_cons.2 ⟨hwell, h.endedWell⟩
  whole hlast := by
    rw [List.map_cons, h.whole fun d hd => hlast d ?_]
    rw [List.getLast?_cons, Option.mem_def.1 hd]
    rfl

/-- A pipeline is good if all its calls ended well. -/
theorem all_endedWell_iff (h : Covers context steps calls) :
    calls.all Call.endedWell = true ↔ ∃ r, outcome calls = .ok r ∧ r.ok = true := by
  constructor
  · intro hall
    have hzero : (Status.code 0).isZero = true := rfl
    obtain ⟨r, hok, hr, -⟩ := exists_outcomeFrom_append hall [] hzero
    exact ⟨r, hr, hok⟩
  · rintro ⟨r, hr, hok⟩
    -- Only the last call may have ended otherwise, and its status is the one of the result.
    obtain rfl | ⟨front, last, rfl⟩ := calls.eq_nil_or_concat'
    · rfl
    · have hlast : last.endedWell = true := by
        rw [outcome, outcomeFrom, List.getLast?_concat] at hr
        simp only at hr
        unfold Call.endedWell
        cases hanswer : last.answer with
        | error e =>
          rw [hanswer] at hr
          cases hr
        | ok s =>
          rw [hanswer] at hr
          cases hr
          exact hok
      have hfront := h.endedWell
      rw [List.dropLast_concat] at hfront
      rw [List.all_append, List.all_eq_true.2 hfront, List.all_cons, hlast]
      rfl

end Covers

end

/-! ## A pipeline step by step -/

variable [Reports σ]

instance : Reports (Traced κ ε σ) where
  report n t := { t with state := Reports.report n t.state, log := t.log ++ [n] }

/-- What is seen of a pipeline. -/
def account (context : κ) (steps : List (Step κ ε σ)) (s : σ) : Account κ ε σ :=
  match (run context (steps.map Step.traced)).run ⟨s, [], []⟩ with
  | .ok r t => ⟨t, .ok r⟩
  | .error e t => ⟨t, .error e⟩

/-- The calls of a pipeline, and the state that it leaves. -/
def follow (context : κ) : List (Step κ ε σ) → σ → List (Call κ ε σ) × σ
  | [], s => ([], s)
  | step :: rest, s =>
    match (step.run context).run (Reports.report (.runningStep step.id) s) with
    | .error e s' => ([⟨step, context, .error e⟩], s')
    | .ok status s' =>
      if status.isZero then
        (⟨step, context, .ok status⟩ :: (follow context rest s').1, (follow context rest s').2)
      else ([⟨step, context, .ok status⟩], Reports.report (.stepFailed step.id status) s')

variable (context : κ)

/-- One round of a pipeline. -/
theorem run_runFrom_step (ran : List String) (status : Status) (step : Step κ ε σ)
    (rest : List (Step κ ε σ)) (s : σ) :
    (runFrom context ran status (step :: rest)).run s =
      match (step.run context).run (Reports.report (.runningStep step.id) s) with
      | .error e s' => .error e s'
      | .ok status s' =>
        if status.isZero then (runFrom context (ran ++ [step.id]) status rest).run s'
        else .ok ⟨status, ran ++ [step.id], some step.id⟩
          (Reports.report (.stepFailed step.id status) s') := by
  have hreport (n : Log.Notice) (s : σ) :
      (Action.report n : EStateM ε σ Unit).run s = .ok () (Reports.report n s) := rfl
  rw [runFrom, EStateM.run_bind, hreport]
  simp only [EStateM.run_bind]
  cases (step.run context).run (Reports.report (.runningStep step.id) s) with
  | error e s' => rfl
  | ok status s' =>
    simp only
    split <;> rfl

theorem run_runFrom (ran : List String) (status : Status) (steps : List (Step κ ε σ)) (s : σ) :
    (runFrom context ran status steps).run s =
      withState (outcomeFrom ran status (follow context steps s).1) (follow context steps s).2 := by
  induction steps generalizing ran status s with
  | nil => rfl
  | cons step rest ih =>
    rw [run_runFrom_step, follow]
    cases (step.run context).run (Reports.report (.runningStep step.id) s) with
    | error e s' => rfl
    | ok status s' =>
      simp only
      split
      · next hs =>
        rw [ih, outcomeFrom_cons rfl hs]
      · next hs => simp [outcomeFrom, withState, Except.map, hs]

/-- The same pipeline over steps that write down their calls. -/
theorem run_runFrom_traced (ran : List String) (status : Status) (steps : List (Step κ ε σ))
    (t : Traced κ ε σ) :
    (runFrom context ran status (steps.map Step.traced)).run t =
      withState (outcomeFrom ran status (follow context steps t.state).1)
        ⟨(follow context steps t.state).2, t.calls ++ (follow context steps t.state).1,
          t.log ++ records (follow context steps t.state).1⟩ := by
  induction steps generalizing ran status t with
  | nil => simp [follow, records, lastRecord, outcomeFrom, withState, runFrom]
  | cons step rest ih =>
    have hstep : (step.traced.run context).run (Reports.report (.runningStep step.id) t) =
        match (step.run context).run (Reports.report (.runningStep step.id) t.state) with
        | .ok s state => .ok s
          ⟨state, t.calls ++ [⟨step, context, .ok s⟩], t.log ++ [.runningStep step.id]⟩
        | .error e state => .error e
          ⟨state, t.calls ++ [⟨step, context, .error e⟩], t.log ++ [.runningStep step.id]⟩ := rfl
    rw [List.map_cons, run_runFrom_step, Step.id_traced, hstep, follow]
    cases (step.run context).run (Reports.report (.runningStep step.id) t.state) with
    | error e s' => rfl
    | ok status s' =>
      simp only
      split
      · next hs =>
        have hwell : (⟨step, context, .ok status⟩ : Call κ ε σ).endedWell = true := hs
        rw [ih, outcomeFrom_cons rfl hs, records_cons hwell]
        simp only [List.append_assoc, List.singleton_append]
      · next hs =>
        simp [outcomeFrom, withState, Except.map, hs, records, lastRecord, Reports.report]

theorem account_eq (steps : List (Step κ ε σ)) (s : σ) :
    account context steps s =
      ⟨⟨(follow context steps s).2, (follow context steps s).1,
        records (follow context steps s).1⟩, outcome (follow context steps s).1⟩ := by
  rw [account, run, run_runFrom_traced, outcome]
  cases outcomeFrom [] (.code 0) (follow context steps s).1 <;> rfl

/-! ## The calls of a pipeline -/

theorem covers_follow (steps : List (Step κ ε σ)) (s : σ) :
    Covers context steps (follow context steps s).1 := by
  induction steps generalizing s with
  | nil => exact ⟨nofun, List.prefix_rfl, nofun, fun _ => rfl⟩
  | cons step rest ih =>
    rw [follow]
    cases (step.run context).run (Reports.report (.runningStep step.id) s) with
    | error e s' => exact .stop step _ rfl
    | ok status s' =>
      simp only
      split
      · next hs => exact .cons step hs (ih s')
      · next hs => exact .stop step _ (Bool.eq_false_iff.2 hs)

/-- A pipeline goes on with further steps if all its steps ended well. -/
theorem follow_append (first rest : List (Step κ ε σ)) (s : σ) :
    follow context (first ++ rest) s =
      if (follow context first s).1.all Call.endedWell then
        ((follow context first s).1 ++ (follow context rest (follow context first s).2).1,
          (follow context rest (follow context first s).2).2)
      else follow context first s := by
  induction first generalizing s with
  | nil => simp [follow]
  | cons step first ih =>
    rw [List.cons_append, follow, follow]
    cases (step.run context).run (Reports.report (.runningStep step.id) s) with
    | error e s' => rfl
    | ok status s' =>
      simp only
      split
      · next hs =>
        have hwell : Call.endedWell ⟨step, context, .ok status⟩ = true := hs
        rw [ih]
        simp only [List.all_cons, hwell, Bool.true_and]
        split <;> rfl
      · next hs => simp [Call.endedWell, hs]

theorem isEmpty_follow (steps : List (Step κ ε σ)) (s : σ) :
    (follow context steps s).1.isEmpty = steps.isEmpty := by
  cases steps with
  | nil => rfl
  | cons step rest =>
    rw [follow]
    cases (step.run context).run (Reports.report (.runningStep step.id) s) with
    | error e s' => rfl
    | ok status s' =>
      simp only
      split <;> rfl

/-- A pipeline calls its steps in order and with its context, up to the first one that raises or ends
with another status than zero, and each of them once.

* Its steps do what they do without being watched, and the state is the same.
* What it comes to, and what it reports, are told by its calls. A failure of a step is the failure of
  the pipeline.
* A list of steps behind another one runs if the other one is good, on the state which that leaves,
  and the two accounts are put together. -/
theorem run_short_circuits :
    (∀ (steps : List (Step κ ε σ)) (s : σ), let a := account context steps s
      (run context steps).run s = withState a.answer a.state ∧ Covers context steps a.calls ∧
        a.answer = outcome a.calls ∧ a.log = records a.calls ∧
        ∀ r, a.answer = .ok r → (r.ok = true ↔ r.failedStep = none)) ∧
    ∀ (first rest : List (Step κ ε σ)) (s : σ), let a := account context first s
      account context (first ++ rest) s = match a.answer with
        | .error _ => a
        | .ok r =>
          if r.ok then
            let b := account context rest a.state
            ⟨⟨b.state, a.calls ++ b.calls, a.log ++ b.log⟩, b.answer.map fun r' =>
              ⟨if rest.isEmpty then r.returncode else r'.returncode, r.ranSteps ++ r'.ranSteps,
                r'.failedStep⟩⟩
          else a := by
  refine ⟨fun steps s => ?_, fun first rest s => ?_⟩
  · rw [account_eq]
    exact ⟨run_runFrom context [] (.code 0) steps s, covers_follow context steps s, rfl, rfl,
      fun r hr => ok_iff_failedStep_of_outcomeFrom rfl hr⟩
  · simp only [account_eq, follow_append]
    have hcovers := covers_follow context first s
    generalize follow context first s = f at hcovers
    obtain ⟨calls, s'⟩ := f
    simp only at hcovers ⊢
    by_cases hall : calls.all Call.endedWell = true
    · have hzero : (Status.code 0).isZero = true := rfl
      obtain ⟨r, hok, hr, hrest⟩ := exists_outcomeFrom_append hall [] hzero
      have hfirst : outcome calls = .ok r := hr
      rw [if_pos hall, hfirst, outcome, hrest, records_append hall, outcomeFrom_eq_map,
        isEmpty_follow]
      simp only
      rw [if_pos hok]
    · rw [if_neg hall]
      cases hr : outcome calls with
      | error e => rfl
      | ok r =>
        have hok : ¬ r.ok = true := fun hok => hall (hcovers.all_endedWell_iff.2 ⟨r, hr, hok⟩)
        simp only
        rw [if_neg hok]

end DeviceLauncher.Pipeline
