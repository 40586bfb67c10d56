import HidHide.ForMathlib.Machine
import HidHide.ForMathlib.Json
import HidHide.Client.Utils
import HidHide.Watchdog.EtwTraceSession
import Mathlib.Logic.Function.Basic

/-!
# Stale trace sessions

A trace outlives the process that has started it. When `StartTraceW` finds one of its name,
`TryStopStaleOurSession` stops it if it writes to the directory of the Watchdog and its logger
thread is gone, or is one of this process. It asks for the trace, for the thread and for the process
one after the other, while threads and processes come and go and their numbers are used again.

Nonetheless, the trace that it stops is one of the directory, and not the live one of another
process (`stale_check_spares_live`), as long as no trace has been started since it asked. A second
Watchdog that does so is not noticed.
-/

namespace HidHide

/-! ### The checks -/

section Checks

variable (towlower : WChar → WChar)

/-- The inner loop of `SubstringMatchInsensitive`. -/
def matchesAt : WString → WString → Bool
  | _, [] => true
  | [], _ :: _ => false
  | a :: haystack, b :: needle =>
      if towlower a = towlower b then matchesAt haystack needle else false

/-- The outer loop of `SubstringMatchInsensitive`. -/
def matchesFrom (needle : WString) : WString → Bool
  | [] => false
  | a :: haystack =>
      if matchesAt towlower (a :: haystack) needle then true else matchesFrom needle haystack

/-- `SubstringMatchInsensitive`. -/
def substringMatchInsensitive (haystack needle : WString) : Bool :=
  if needle = [] then false else matchesFrom towlower needle haystack

/-- `_wcsicmp` finds no difference. -/
def wcsicmpEqual (a b : WString) : Prop := a.map towlower = b.map towlower

instance (a b : WString) : Decidable (wcsicmpEqual towlower a b) :=
  inferInstanceAs (Decidable (_ = _))

/-- `ERROR_NOT_FOUND`. -/
def errorNotFound : UInt32 := 1168

/-- `Win32ErrorIndicatesMissingThreadOrProcess`. -/
def win32ErrorIndicatesMissingThreadOrProcess (err : UInt32) : Bool :=
  err = errorInvalidParameter ∨ err = errorNotFound

/-- `kWatchdogExe`. -/
def kWatchdogExe : WString := Json.ascii "HidHideWatchdog.exe"

/-- `kOurDirBackslash`. -/
def kOurDirBackslash : WString := Json.ascii "Nefarius\\HidHide\\ETW"

/-- `kOurDirSlash`. -/
def kOurDirSlash : WString := Json.ascii "Nefarius/HidHide/ETW"

/-- What follows the last backslash. -/
def imageBase (image : WString) : WString := (image.reverse.takeWhile (· ≠ 0x5C)).reverse

/-- The calls of `TryStopStaleOurSession`: the log path, if it lies in the buffer, and the logger
thread of the trace; the process of the thread, zero if it cannot be told; the image of the process,
if it can be told; and the status of the stop. The last call counts of those of `QueryTraceW`. -/
structure StaleOutcome where
  queryTrace : Except UInt32 (Option WString × UInt32)
  openThread : Except UInt32 UInt32
  openProcess : Except UInt32 (Option WString)
  controlTrace : UInt32

/-- What `TryStopStaleOurSession` makes of the query: the logger thread of a trace in the
directory. -/
def ourLoggerThreadId : Except UInt32 (Option WString × UInt32) → Option UInt32
  | .error _ => none
  | .ok (none, _) => none
  | .ok (some logPath, loggerThreadId) =>
      if logPath = [] then none
      else if !substringMatchInsensitive towlower logPath kOurDirBackslash &&
          !substringMatchInsensitive towlower logPath kOurDirSlash then none
      else some loggerThreadId

/-- The part of `LoggerThreadIndicatesSafeToStop` on the thread: the result, or the process to go
on with. -/
def loggerThreadCheck (rawThreadId : UInt32) (openThread : Except UInt32 UInt32) : Bool ⊕ UInt32 :=
  if rawThreadId = 0 then .inl false
  else
    match openThread with
    | .error openThreadErr => .inl (win32ErrorIndicatesMissingThreadOrProcess openThreadErr)
    | .ok pid => if pid = 0 then .inl false else .inr pid

/-- The part of `LoggerThreadIndicatesSafeToStop` on the process. -/
def loggerProcessCheck (currentProcessId pid : UInt32) :
    Except UInt32 (Option WString) → Bool
  | .error openProcessErr => win32ErrorIndicatesMissingThreadOrProcess openProcessErr
  | .ok none => false
  | .ok (some image) =>
      if ¬wcsicmpEqual towlower (imageBase image) kWatchdogExe then false
      else if pid ≠ currentProcessId then false
      else true

/-- `LoggerThreadIndicatesSafeToStop`. -/
def loggerThreadIndicatesSafeToStop (currentProcessId rawThreadId : UInt32) (o : StaleOutcome) :
    Bool :=
  match loggerThreadCheck rawThreadId o.openThread with
  | .inl safe => safe
  | .inr pid => loggerProcessCheck towlower currentProcessId pid o.openProcess

/-- `TryStopStaleOurSession`. -/
def tryStopStaleOurSession (currentProcessId : UInt32) (o : StaleOutcome) : Bool :=
  match ourLoggerThreadId towlower o.queryTrace with
  | none => false
  | some loggerThreadId =>
      if !loggerThreadIndicatesSafeToStop towlower currentProcessId loggerThreadId o then false
      else o.controlTrace = errorSuccess

/-- The log path has the directory of the Watchdog in it. -/
def InOurDirectory (logPath : WString) : Prop :=
  kOurDirBackslash.map towlower <:+: logPath.map towlower ∨
    kOurDirSlash.map towlower <:+: logPath.map towlower

variable {towlower}

theorem matchesAt_iff (haystack needle : WString) :
    matchesAt towlower haystack needle = true ↔
      needle.map towlower <+: haystack.map towlower := by
  induction needle generalizing haystack with
  | nil => simp [matchesAt]
  | cons b needle ih =>
    cases haystack with
    | nil => simp [matchesAt]
    | cons a haystack =>
      rw [matchesAt, List.map_cons, List.map_cons, List.cons_prefix_cons, ← ih]
      split_ifs with hab
      · simp [hab]
      · simp [Ne.symm hab]

/-- **The search finds each occurrence**, up to the case of the letters. -/
theorem substringMatchInsensitive_iff (haystack needle : WString) :
    substringMatchInsensitive towlower haystack needle = true ↔
      needle ≠ [] ∧ needle.map towlower <:+: haystack.map towlower := by
  rw [substringMatchInsensitive]
  split_ifs with hneedle
  · simp [hneedle]
  · induction haystack with
    | nil => simp [matchesFrom, hneedle]
    | cons a haystack ih =>
      rw [matchesFrom, List.map_cons, List.infix_cons_iff, ← List.map_cons, ← matchesAt_iff]
      split_ifs with hmatch
      · simp [hmatch, hneedle]
      · simpa [hmatch] using ih

/-- The traces that the query goes on with are those of the directory. -/
theorem ourLoggerThreadId_eq_some {logPath : WString} {loggerThreadId tid : UInt32}
    (h : ourLoggerThreadId towlower (.ok (some logPath, loggerThreadId)) = some tid) :
    tid = loggerThreadId ∧ InOurDirectory towlower logPath := by
  rw [ourLoggerThreadId] at h
  split_ifs at h with hempty hdir
  refine ⟨(Option.some.inj h).symm, ?_⟩
  simp only [Bool.and_eq_true, Bool.not_eq_true', not_and_or, Bool.not_eq_false,
    substringMatchInsensitive_iff] at hdir
  exact hdir.imp And.right And.right

end Checks

/-! ### Traces, threads and processes -/

/-- The trace of the session name. Its owner is the process of its logger thread, as long as that
thread goes on: while there is one, the trace is live. -/
structure LoggedTrace where
  logFileName : WString
  loggerThreadId : UInt32
  owner : Option UInt32
  deriving DecidableEq

/-- How far a process has got with `TryStopStaleOurSession`: it has the logger thread of a trace in
the directory, or the process of that thread, or is about to stop the trace. -/
inductive StaleCheck where
  | idle
  | queried (loggerThreadId : UInt32)
  | opened (pid : UInt32)
  | safeToStop
  deriving DecidableEq, Repr

/-- The trace of the session name, the process of each thread and the image of each process, by
their numbers, and the check that each process makes. -/
structure TraceSystem where
  trace : Option LoggedTrace
  threads : UInt32 → Option UInt32
  images : UInt32 → Option WString
  checks : UInt32 → StaleCheck

/-- A process goes on with its check, the calls coming to the given outcomes; a trace is started or
stopped; a process or thread starts or ends. -/
inductive TraceEvent where
  | check (pid : UInt32) (o : StaleOutcome)
  | startTrace (loggerThreadId : UInt32) (logFileName : WString)
  | stopTrace
  | startProcess (pid : UInt32) (image : WString)
  | startThread (tid pid : UInt32)
  | exitThread (tid : UInt32)
  | exitProcess (pid : UInt32)

namespace TraceSystem

/-- The query is about the trace there is. -/
def AnswersQuery (s : TraceSystem) : Except UInt32 (Option WString × UInt32) → Prop
  | .error _ => True
  | .ok (logPath, loggerThreadId) => ∃ trace ∈ s.trace, trace.loggerThreadId = loggerThreadId ∧
      ∀ path ∈ logPath, path = trace.logFileName

/-- A thread is reported as missing only if it is, and its process, if it can be told, is its
own. -/
def AnswersThread (s : TraceSystem) (tid : UInt32) : Except UInt32 UInt32 → Prop
  | .error err => win32ErrorIndicatesMissingThreadOrProcess err = true → s.threads tid = none
  | .ok pid => pid ≠ 0 → s.threads tid = some pid

/-- A process is reported as missing only if it is, and its image, if it can be told, is its own. -/
def AnswersProcess (s : TraceSystem) (pid : UInt32) : Except UInt32 (Option WString) → Prop
  | .error err => win32ErrorIndicatesMissingThreadOrProcess err = true → s.images pid = none
  | .ok image => ∀ path ∈ image, s.images pid = some path

instance (s : TraceSystem) : DecidablePred s.AnswersQuery
  | .error _ => .isTrue trivial
  | .ok (_, _) => inferInstanceAs (Decidable (∃ trace ∈ s.trace, _ ∧ ∀ path ∈ _, _))

instance (s : TraceSystem) (tid : UInt32) : DecidablePred (s.AnswersThread tid)
  | .error _ => inferInstanceAs (Decidable (_ → _))
  | .ok _ => inferInstanceAs (Decidable (_ → _))

instance (s : TraceSystem) (pid : UInt32) : DecidablePred (s.AnswersProcess pid)
  | .error _ => inferInstanceAs (Decidable (_ → _))
  | .ok _ => inferInstanceAs (Decidable (∀ path ∈ _, _))

/-- The process has got so far. -/
def setCheck (s : TraceSystem) (pid : UInt32) (check : StaleCheck) : TraceSystem :=
  { s with checks := Function.update s.checks pid check }

section Step

variable (towlower : WChar → WChar)

/-- A process goes on with `TryStopStaleOurSession`. -/
def checkStep (s : TraceSystem) (currentProcessId : UInt32) (o : StaleOutcome) :
    Option TraceSystem :=
  match s.checks currentProcessId with
  | .idle =>
      if s.AnswersQuery o.queryTrace then
        match ourLoggerThreadId towlower o.queryTrace with
        | none => some s
        | some loggerThreadId => some (s.setCheck currentProcessId (.queried loggerThreadId))
      else none
  | .queried loggerThreadId =>
      if s.AnswersThread loggerThreadId o.openThread then
        match loggerThreadCheck loggerThreadId o.openThread with
        | .inl safe => some (s.setCheck currentProcessId (if safe then .safeToStop else .idle))
        | .inr pid => some (s.setCheck currentProcessId (.opened pid))
      else none
  | .opened pid =>
      if s.AnswersProcess pid o.openProcess then
        let safe := loggerProcessCheck towlower currentProcessId pid o.openProcess
        some (s.setCheck currentProcessId (if safe then .safeToStop else .idle))
      else none
  | .safeToStop =>
      -- by its name, whichever trace that is now
      let trace := if o.controlTrace = errorSuccess then none else s.trace
      some ({ s with trace }.setCheck currentProcessId .idle)

/-- What happens next. A thread that ends has the trace live no longer. -/
def step (s : TraceSystem) : TraceEvent → Option TraceSystem
  | .check pid o => s.checkStep towlower pid o
  | .startTrace loggerThreadId logFileName =>
      match s.trace, s.threads loggerThreadId with
      | none, some pid =>
          some { s with trace := some ⟨logFileName, loggerThreadId, some pid⟩ }
      | _, _ => none
  | .stopTrace => some { s with trace := none }
  | .startProcess pid image =>
      if s.images pid = none then
        some { s with images := Function.update s.images pid (some image) }
      else none
  | .startThread tid pid =>
      if s.threads tid = none ∧ s.images pid ≠ none then
        some { s with threads := Function.update s.threads tid (some pid) }
      else none
  | .exitThread tid =>
      some { s with
        threads := Function.update s.threads tid none
        trace := s.trace.map fun trace =>
          if trace.loggerThreadId = tid then { trace with owner := none } else trace }
  | .exitProcess pid =>
      some { s with
        threads := fun tid => (s.threads tid).filter (· ≠ pid)
        images := Function.update s.images pid none
        checks := Function.update s.checks pid .idle
        trace := s.trace.map fun trace => { trace with owner := trace.owner.filter (· ≠ pid) } }

end Step

/-- Nothing runs yet. -/
def start : TraceSystem where
  trace := none
  threads _ := none
  images _ := none
  checks _ := .idle

/-- The threads belong to processes that there are, and a live trace to the process of its logger
thread. -/
structure Valid (s : TraceSystem) : Prop where
  process : ∀ tid pid, s.threads tid = some pid → s.images pid ≠ none
  owner : ∀ trace ∈ s.trace, ∀ pid ∈ trace.owner, s.threads trace.loggerThreadId = some pid

variable {towlower : WChar → WChar} {s s' : TraceSystem}

/-! ### What each step does -/

theorem setCheck_checks_self (pid : UInt32) (check : StaleCheck) :
    (s.setCheck pid check).checks pid = check := Function.update_self ..

theorem setCheck_checks_of_ne {pid pid' : UInt32} (h : pid' ≠ pid) (check : StaleCheck) :
    (s.setCheck pid check).checks pid' = s.checks pid' := Function.update_of_ne h ..

/-- A check starts no threads and processes and no trace, and leaves the checks of others alone. -/
theorem checkStep_frame {pid : UInt32} {o : StaleOutcome}
    (h : s.checkStep towlower pid o = some s') :
    s'.threads = s.threads ∧ s'.images = s.images ∧ (s'.trace = s.trace ∨ s'.trace = none) ∧
      ∀ pid' ≠ pid, s'.checks pid' = s.checks pid' := by
  have hset : ∀ check, some (s.setCheck pid check) = some s' →
      s'.threads = s.threads ∧ s'.images = s.images ∧ (s'.trace = s.trace ∨ s'.trace = none) ∧
        ∀ pid' ≠ pid, s'.checks pid' = s.checks pid' := by
    rintro check hs'
    obtain rfl := Option.some.inj hs'
    exact ⟨rfl, rfl, .inl rfl, fun pid' hne => setCheck_checks_of_ne hne check⟩
  rw [checkStep] at h
  rcases hcheck : s.checks pid with _ | tid | process | _ <;> rw [hcheck] at h <;>
    dsimp only at h
  · split_ifs at h
    split at h
    · obtain rfl := Option.some.inj h
      exact ⟨rfl, rfl, .inl rfl, fun _ _ => rfl⟩
    · exact hset _ h
  · split_ifs at h
    split at h
    · exact hset _ h
    · exact hset _ h
  · split_ifs at h
    · exact hset _ h
    · exact hset _ h
  · obtain rfl := Option.some.inj h
    refine ⟨rfl, rfl, ?_, fun pid' hne => Function.update_of_ne hne ..⟩
    dsimp only [setCheck]
    split_ifs
    · exact .inr rfl
    · exact .inl rfl

/-- A process goes on with its check itself, or it ends. -/
theorem step_checks {pid : UInt32} {e : TraceEvent} (he : ∀ o, e ≠ .check pid o)
    (hstep : s.step towlower e = some s') :
    s'.checks pid = s.checks pid ∨ s'.checks pid = .idle := by
  cases e with
  | check pid' o =>
    have hne : pid ≠ pid' := by
      rintro rfl
      exact he o rfl
    exact .inl ((checkStep_frame hstep).2.2.2 pid hne)
  | startTrace tid path =>
    simp only [step] at hstep
    split at hstep
    · obtain rfl := Option.some.inj hstep
      exact .inl rfl
    · cases hstep
  | stopTrace | exitThread =>
    obtain rfl := Option.some.inj hstep
    exact .inl rfl
  | startProcess | startThread =>
    simp only [step] at hstep
    split_ifs at hstep
    obtain rfl := Option.some.inj hstep
    exact .inl rfl
  | exitProcess pid' =>
    obtain rfl := Option.some.inj hstep
    by_cases hpid : pid = pid'
    · right
      rw [hpid]
      exact Function.update_self ..
    · exact .inl (Function.update_of_ne hpid ..)

/-- A step other than a start keeps no trace but the one there is, and makes none live. -/
theorem step_trace {e : TraceEvent} (he : ∀ tid path, e ≠ .startTrace tid path)
    (hstep : s.step towlower e = some s') {trace' : LoggedTrace} (htrace' : trace' ∈ s'.trace) :
    ∃ trace ∈ s.trace, trace'.logFileName = trace.logFileName ∧
      trace'.loggerThreadId = trace.loggerThreadId ∧ ∀ pid ∈ trace'.owner, pid ∈ trace.owner := by
  have hsame : s'.trace = s.trace → ∃ trace ∈ s.trace, trace'.logFileName = trace.logFileName ∧
      trace'.loggerThreadId = trace.loggerThreadId ∧ ∀ pid ∈ trace'.owner, pid ∈ trace.owner :=
    fun h => ⟨trace', h ▸ htrace', rfl, rfl, fun _ => id⟩
  cases e with
  | startTrace tid path => exact absurd rfl (he tid path)
  | check pid o =>
    obtain ⟨-, -, hsame' | hnone, -⟩ := checkStep_frame hstep
    · exact hsame hsame'
    · rw [hnone] at htrace'
      cases htrace'
  | stopTrace =>
    obtain rfl := Option.some.inj hstep
    cases htrace'
  | startProcess | startThread =>
    simp only [step] at hstep
    split_ifs at hstep
    obtain rfl := Option.some.inj hstep
    exact hsame rfl
  | exitThread tid =>
    obtain rfl := Option.some.inj hstep
    obtain ⟨trace, htrace, rfl⟩ := Option.map_eq_some_iff.mp htrace'
    refine ⟨trace, htrace, ?_⟩
    split_ifs
    · exact ⟨rfl, rfl, nofun⟩
    · exact ⟨rfl, rfl, fun _ => id⟩
  | exitProcess pid =>
    obtain rfl := Option.some.inj hstep
    obtain ⟨trace, htrace, rfl⟩ := Option.map_eq_some_iff.mp htrace'
    exact ⟨trace, htrace, rfl, rfl, fun q hq => (Option.mem_filter_iff.mp hq).1⟩

/-- **Each step keeps the state valid**: a trace is live only as long as its logger thread is. -/
theorem Valid.step (h : s.Valid) {e : TraceEvent} (hstep : s.step towlower e = some s') :
    s'.Valid := by
  obtain ⟨hprocess, howner⟩ := h
  cases e with
  | check pid o =>
    obtain ⟨hthreads, himages, htrace, -⟩ := checkStep_frame hstep
    refine ⟨by rwa [hthreads, himages], fun trace ht => ?_⟩
    rcases htrace with htrace | htrace <;> rw [htrace] at ht
    · rw [hthreads]
      exact howner trace ht
    · cases ht
  | startTrace tid path =>
    simp only [TraceSystem.step] at hstep
    split at hstep
    · obtain rfl := Option.some.inj hstep
      refine ⟨hprocess, fun trace ht pid hpid => ?_⟩
      obtain rfl := Option.some.inj ht
      obtain rfl := Option.some.inj hpid
      assumption
    · cases hstep
  | stopTrace =>
    obtain rfl := Option.some.inj hstep
    exact ⟨hprocess, nofun⟩
  | startProcess pid image =>
    simp only [TraceSystem.step] at hstep
    split_ifs at hstep
    obtain rfl := Option.some.inj hstep
    refine ⟨fun tid pid' hpid' => ?_, howner⟩
    dsimp only
    by_cases hne : pid' = pid
    · rw [hne, Function.update_self]
      simp
    · rw [Function.update_of_ne hne]
      exact hprocess tid pid' hpid'
  | startThread tid pid =>
    simp only [TraceSystem.step] at hstep
    split_ifs at hstep with hnew
    obtain rfl := Option.some.inj hstep
    refine ⟨fun tid' pid' hpid' => ?_, fun trace ht pid' hpid' => ?_⟩
    · dsimp only at hpid'
      by_cases hne : tid' = tid
      · rw [hne, Function.update_self] at hpid'
        obtain rfl := Option.some.inj hpid'
        exact hnew.2
      · rw [Function.update_of_ne hne] at hpid'
        exact hprocess tid' pid' hpid'
    · -- the number of a logger thread that goes on is not free
      have hlogger := howner trace ht pid' hpid'
      dsimp only
      rw [Function.update_of_ne, hlogger]
      rintro rfl
      cases hnew.1.symm.trans hlogger
  | exitThread tid =>
    obtain rfl := Option.some.inj hstep
    refine ⟨fun tid' pid' hpid' => ?_, fun trace ht pid' hpid' => ?_⟩
    · dsimp only at hpid'
      by_cases hne : tid' = tid
      · rw [hne, Function.update_self] at hpid'
        cases hpid'
      · rw [Function.update_of_ne hne] at hpid'
        exact hprocess tid' pid' hpid'
    · obtain ⟨trace, htrace, rfl⟩ := Option.map_eq_some_iff.mp ht
      dsimp only
      split_ifs at hpid' ⊢ with htid
      · cases hpid'
      · rw [Function.update_of_ne htid]
        exact howner trace htrace pid' hpid'
  | exitProcess pid =>
    obtain rfl := Option.some.inj hstep
    refine ⟨fun tid pid' hpid' => ?_, fun trace ht pid' hpid' => ?_⟩
    · obtain ⟨htid, hne⟩ := Option.filter_eq_some_iff.mp hpid'
      dsimp only
      rw [Function.update_of_ne (by simpa using hne)]
      exact hprocess tid pid' htid
    · obtain ⟨trace, htrace, rfl⟩ := Option.map_eq_some_iff.mp ht
      obtain ⟨hmem, hne⟩ := Option.filter_eq_some_iff.mp hpid'
      exact Option.filter_eq_some_iff.mpr ⟨howner trace htrace pid' hmem, hne⟩

/-! ### What a check knows -/

/-- What a process knows of a trace by how far it has got. -/
def Knows (towlower : WChar → WChar) (currentProcessId : UInt32) (trace : LoggedTrace) :
    StaleCheck → Prop
  | .idle => True
  | .queried loggerThreadId =>
      InOurDirectory towlower trace.logFileName ∧ trace.loggerThreadId = loggerThreadId
  | .opened pid => InOurDirectory towlower trace.logFileName ∧ ∀ owner ∈ trace.owner, owner = pid
  | .safeToStop =>
      InOurDirectory towlower trace.logFileName ∧ ∀ owner ∈ trace.owner, owner = currentProcessId

/-- The process knows this of the trace there is. -/
def Checked (towlower : WChar → WChar) (s : TraceSystem) (pid : UInt32) : Prop :=
  ∀ trace ∈ s.trace, Knows towlower pid trace (s.checks pid)

theorem Knows.mono {pid : UInt32} {trace trace' : LoggedTrace} {check : StaleCheck}
    (h : Knows towlower pid trace check) (hname : trace'.logFileName = trace.logFileName)
    (htid : trace'.loggerThreadId = trace.loggerThreadId)
    (howner : ∀ owner ∈ trace'.owner, owner ∈ trace.owner) :
    Knows towlower pid trace' check := by
  cases check with
  | idle => trivial
  | queried => exact ⟨hname ▸ h.1, htid.trans h.2⟩
  | opened | safeToStop => exact ⟨hname ▸ h.1, fun owner ho => h.2 owner (howner owner ho)⟩

/-- A thread that is missing, or is one of the process, tells of the owner of its trace. -/
theorem knows_of_thread (hs : s.Valid) {trace : LoggedTrace} (htrace : trace ∈ s.trace)
    {currentProcessId tid : UInt32} (h : Knows towlower currentProcessId trace (.queried tid))
    {openThread : Except UInt32 UInt32} (hanswer : s.AnswersThread tid openThread) :
    (loggerThreadCheck tid openThread = .inl true →
        Knows towlower currentProcessId trace .safeToStop) ∧
      ∀ pid, loggerThreadCheck tid openThread = .inr pid →
        Knows towlower currentProcessId trace (.opened pid) := by
  obtain ⟨hdir, rfl⟩ := h
  unfold loggerThreadCheck
  split_ifs with hzero
  · exact ⟨nofun, nofun⟩
  · cases openThread with
    | error err =>
      refine ⟨fun hmissing => ⟨hdir, fun owner ho => ?_⟩, nofun⟩
      have hnone := hanswer (Sum.inl.inj hmissing)
      cases hnone.symm.trans (hs.owner trace htrace owner ho)
    | ok process =>
      dsimp only
      split_ifs with hprocess
      · exact ⟨nofun, nofun⟩
      · refine ⟨nofun, fun pid hpid => ⟨hdir, fun owner ho => ?_⟩⟩
        obtain rfl := Sum.inr.inj hpid
        exact Option.some.inj ((hs.owner trace htrace owner ho).symm.trans (hanswer hprocess))

/-- So does a process that is missing, or is this one. -/
theorem knows_of_process (hs : s.Valid) {trace : LoggedTrace} (htrace : trace ∈ s.trace)
    {currentProcessId pid : UInt32} (h : Knows towlower currentProcessId trace (.opened pid))
    {openProcess : Except UInt32 (Option WString)} (hanswer : s.AnswersProcess pid openProcess)
    (hsafe : loggerProcessCheck towlower currentProcessId pid openProcess = true) :
    Knows towlower currentProcessId trace .safeToStop := by
  refine ⟨h.1, fun owner ho => ?_⟩
  obtain rfl := h.2 owner ho
  cases openProcess with
  | error err =>
    exact absurd (hanswer hsafe) (hs.process _ _ (hs.owner trace htrace owner ho))
  | ok image =>
    cases image with
    | none => cases hsafe
    | some image =>
      rw [loggerProcessCheck] at hsafe
      split_ifs at hsafe with himage hcurrent
      exact not_not.mp hcurrent

/-- The process goes on with its check, and knows more. -/
theorem Checked.checkStep (hs : s.Valid) {pid : UInt32} (h : Checked towlower s pid)
    {o : StaleOutcome} (hstep : s.checkStep towlower pid o = some s') :
    Checked towlower s' pid := by
  have hset : ∀ {check}, some (s.setCheck pid check) = some s' →
      (∀ trace ∈ s.trace, Knows towlower pid trace check) → Checked towlower s' pid := by
    rintro check hs' hknows trace ht
    obtain rfl := Option.some.inj hs'
    rw [setCheck_checks_self]
    exact hknows trace ht
  rw [TraceSystem.checkStep] at hstep
  rcases hcheck : s.checks pid with _ | tid | process | _ <;> rw [hcheck] at hstep <;>
    dsimp only at hstep
  · -- the query
    split_ifs at hstep with hanswer
    split at hstep
    · obtain rfl := Option.some.inj hstep
      exact h
    · rename_i tid htid
      refine hset hstep fun trace ht => ?_
      rcases hquery : o.queryTrace with err | ⟨logPath, rawThreadId⟩ <;> rw [hquery] at htid hanswer
      · cases htid
      · obtain ⟨trace', ht', hraw, hpath⟩ := hanswer
        obtain rfl := Option.some.inj (ht'.symm.trans ht)
        cases logPath with
        | none => cases htid
        | some logPath =>
          obtain ⟨rfl, hdir⟩ := ourLoggerThreadId_eq_some htid
          exact ⟨hpath logPath rfl ▸ hdir, hraw⟩
  · -- the thread
    split_ifs at hstep with hanswer
    have hknows := fun trace ht => knows_of_thread hs ht (hcheck ▸ h trace ht) hanswer
    split at hstep
    · rename_i safe hsafe
      refine hset hstep fun trace ht => ?_
      cases safe with
      | true => exact (hknows trace ht).1 hsafe
      | false => trivial
    · rename_i process hprocess
      exact hset hstep fun trace ht => (hknows trace ht).2 process hprocess
  · -- the process
    split_ifs at hstep with hanswer hsafe
    · exact hset hstep fun trace ht => knows_of_process hs ht (hcheck ▸ h trace ht) hanswer hsafe
    · exact hset hstep fun _ _ => trivial
  · obtain rfl := Option.some.inj hstep
    intro trace _
    rw [setCheck_checks_self]
    trivial

/-- What a process knows stays right, unless a trace is started. -/
theorem Checked.step (hs : s.Valid) {pid : UInt32} (h : Checked towlower s pid) {e : TraceEvent}
    (he : ∀ tid path, e ≠ .startTrace tid path) (hstep : s.step towlower e = some s') :
    Checked towlower s' pid := by
  by_cases hown : ∃ o, e = .check pid o
  · obtain ⟨o, rfl⟩ := hown
    exact h.checkStep hs hstep
  · intro trace' ht'
    obtain ⟨trace, ht, hname, htid, howner⟩ := step_trace he hstep ht'
    rcases step_checks (fun o ho => hown ⟨o, ho⟩) hstep with hcheck | hcheck <;> rw [hcheck]
    · exact (h trace ht).mono hname htid howner
    · trivial

theorem start_valid : TraceSystem.start.Valid := ⟨nofun, nofun⟩

/-- All calls of the check are answered in one state. -/
structure Answers (towlower : WChar → WChar) (s : TraceSystem) (o : StaleOutcome) : Prop where
  query : s.AnswersQuery o.queryTrace
  thread : ∀ tid ∈ ourLoggerThreadId towlower o.queryTrace, s.AnswersThread tid o.openThread
  process : ∀ tid ∈ ourLoggerThreadId towlower o.queryTrace, ∀ pid,
    loggerThreadCheck tid o.openThread = .inr pid → s.AnswersProcess pid o.openProcess

theorem setCheck_setCheck (pid : UInt32) (check check' : StaleCheck) :
    (s.setCheck pid check).setCheck pid check' = s.setCheck pid check' := by
  simp [setCheck]

theorem setCheck_idle {pid : UInt32} (hidle : s.checks pid = .idle) :
    s.setCheck pid .idle = s := by
  rw [setCheck, ← hidle, Function.update_eq_self]

/-- The last step: the trace is stopped, or not. -/
theorem checkStep_safeToStop {pid : UInt32} (hidle : s.checks pid = .idle) (o : StaleOutcome) :
    (s.setCheck pid .safeToStop).checkStep towlower pid o =
      some { s with trace := if o.controlTrace = errorSuccess then none else s.trace } := by
  rw [checkStep, setCheck_checks_self]
  dsimp only [setCheck]
  rw [Function.update_idem, ← hidle, Function.update_eq_self]

/-- Nothing in between: the steps are those of `TryStopStaleOurSession`, and the trace is stopped if
that is its result. -/
theorem run_uninterrupted_check {pid : UInt32} (hidle : s.checks pid = .idle) {o : StaleOutcome}
    (ho : s.Answers towlower o) :
    ∃ n, Machine.run (step towlower) s (List.replicate n (.check pid o)) =
      some { s with trace := if tryStopStaleOurSession towlower pid o then none else s.trace } := by
  rw [tryStopStaleOurSession]
  rcases htid : ourLoggerThreadId towlower o.queryTrace with _ | tid
  · refine ⟨1, ?_⟩
    simp [step, checkStep, hidle, ho.query, htid]
  · have hquery : s.checkStep towlower pid o = some (s.setCheck pid (.queried tid)) := by
      simp [checkStep, hidle, ho.query, htid]
    have hanswer : (s.setCheck pid (.queried tid)).AnswersThread tid o.openThread :=
      ho.thread tid htid
    rcases hthread : loggerThreadCheck tid o.openThread with safe | process
    · have hnext : (s.setCheck pid (.queried tid)).checkStep towlower pid o =
          some (s.setCheck pid (if safe then .safeToStop else .idle)) := by
        simp [checkStep, setCheck_checks_self, hanswer, hthread, setCheck_setCheck]
      cases safe with
      | false =>
        refine ⟨2, ?_⟩
        simp [step, hquery, hnext, setCheck_idle hidle, loggerThreadIndicatesSafeToStop, hthread]
      | true =>
        refine ⟨3, ?_⟩
        simp [step, hquery, hnext, checkStep_safeToStop hidle, loggerThreadIndicatesSafeToStop,
          hthread]
    · have hnext : (s.setCheck pid (.queried tid)).checkStep towlower pid o =
          some (s.setCheck pid (.opened process)) := by
        simp [checkStep, setCheck_checks_self, hanswer, hthread, setCheck_setCheck]
      have hanswer' : (s.setCheck pid (.opened process)).AnswersProcess process o.openProcess :=
        ho.process tid htid process hthread
      have hlast : (s.setCheck pid (.opened process)).checkStep towlower pid o =
          some (s.setCheck pid (if loggerProcessCheck towlower pid process o.openProcess then
            .safeToStop else .idle)) := by
        simp [checkStep, setCheck_checks_self, hanswer', setCheck_setCheck]
      rcases hsafe : loggerProcessCheck towlower pid process o.openProcess <;> rw [hsafe] at hlast
      · refine ⟨3, ?_⟩
        simp [step, hquery, hnext, hlast, setCheck_idle hidle, loggerThreadIndicatesSafeToStop,
          hthread, hsafe]
      · refine ⟨4, ?_⟩
        simp [step, hquery, hnext, hlast, checkStep_safeToStop hidle,
          loggerThreadIndicatesSafeToStop, hthread, hsafe]

end TraceSystem

open TraceSystem

/-- **A stale trace only**: let a process ask for the trace, and no trace be started from then on
until it is about to stop it. Whatever else happens before and in between, the trace is in the
directory of the Watchdog, and is not the live one of another process. -/
theorem stale_check_spares_live {towlower : WChar → WChar} {history : List TraceEvent}
    {s : TraceSystem}
    (hs : Machine.run (TraceSystem.step towlower) TraceSystem.start history = some s) {pid : UInt32}
    (hidle : s.checks pid = .idle) {events : List TraceEvent}
    (hnostart : ∀ e ∈ events, ∀ tid path, e ≠ .startTrace tid path) {s' : TraceSystem}
    (hs' : Machine.run (TraceSystem.step towlower) s events = some s')
    (hsafe : s'.checks pid = .safeToStop) :
    ∀ trace ∈ s'.trace, InOurDirectory towlower trace.logFileName ∧
      ∀ owner ∈ trace.owner, owner = pid := by
  have hvalid : s.Valid := Machine.run_invariant (fun _ _ _ h hstep => h.step hstep) start_valid hs
  have hchecked : Checked towlower s pid := fun trace _ => by rw [hidle]; trivial
  have hafter := Machine.run_invariant_of_along
    (I := fun t => t.Valid ∧ Checked towlower t pid)
    (C := fun _ e => ∀ tid path, e ≠ .startTrace tid path)
    (fun _ _ _ h he hstep => ⟨h.1.step hstep, h.2.step h.1 he hstep⟩) ⟨hvalid, hchecked⟩
    (Machine.along_of_forall hnostart s) hs'
  intro trace htrace
  have hknows := hafter.2 trace htrace
  rw [hsafe] at hknows
  exact hknows

/-- A Watchdog starts a trace and ends without stopping it; two others are started. -/
def staleTrace : List TraceEvent :=
  [.startProcess 2 kWatchdogExe, .startThread 10 2, .startTrace 10 kOurDirSlash, .exitProcess 2,
    .startProcess 3 kWatchdogExe, .startProcess 4 kWatchdogExe, .startThread 11 4]

/-- The logger thread of the trace is gone, and the trace can be stopped. -/
def threadGone : StaleOutcome where
  queryTrace := .ok (some kOurDirSlash, 10)
  openThread := .error errorInvalidParameter
  openProcess := .ok none
  controlTrace := errorSuccess

/-- The check finds the stale trace, while a process starts. -/
theorem stale_check_spares_live_staleTrace :
    ∃ s s', Machine.run (TraceSystem.step id) TraceSystem.start staleTrace = some s ∧
      Machine.run (TraceSystem.step id) s
        [.check 3 threadGone, .startProcess 5 [], .check 3 threadGone] = some s' ∧
      s'.checks 3 = .safeToStop ∧
      ∀ trace ∈ s'.trace, InOurDirectory id trace.logFileName ∧
        ∀ owner ∈ trace.owner, owner = 3 := by
  obtain ⟨s, hs⟩ := Option.isSome_iff_exists.mp
    (show (Machine.run (TraceSystem.step id) TraceSystem.start staleTrace).isSome by decide)
  have hchecks : ∀ s, Machine.run (TraceSystem.step id) TraceSystem.start staleTrace = some s →
      s.checks 3 = .idle ∧ (Machine.run (TraceSystem.step id) s
        [.check 3 threadGone, .startProcess 5 [], .check 3 threadGone]).map (·.checks 3) =
          some .safeToStop := by decide
  obtain ⟨hidle, hsafe⟩ := hchecks s hs
  obtain ⟨s', hs', hsafe⟩ := Option.map_eq_some_iff.mp hsafe
  exact ⟨s, s', hs, hs', hsafe, stale_check_spares_live hs hidle (by simp) hs' hsafe⟩

/-- Both find the stale trace; the second stops it and starts its own. -/
def overtaken : List TraceEvent :=
  [.check 3 threadGone, .check 3 threadGone, .check 4 threadGone, .check 4 threadGone,
    .check 4 threadGone, .startTrace 11 kOurDirSlash]

/- The first one then stops the live trace of the second. -/
example : ∀ s ∈ Machine.run (TraceSystem.step id) TraceSystem.start (staleTrace ++ overtaken),
    s.trace.map (·.owner) = some (some 4) ∧
      (s.step id (.check 3 threadGone)).map (·.trace) = some none := by
  decide

end HidHide
