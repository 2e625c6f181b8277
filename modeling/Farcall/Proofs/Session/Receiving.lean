import Farcall.Proofs.Actions
import Farcall.Proofs.ReadingLimits
import Farcall.Proofs.Session.Connections
import Farcall.Proofs.Session.Correlation

/-!
# Frames that are received

What comes in is up to the other side, and what is made of a notification is up to its handler. No
frame ends the loop that receives them: whatever fails while a frame is handled ends with it. A frame
reaches one pending call at most, and one that reaches a call is no notification.
-/

namespace Farcall

/-- The number that a frame carries, if it is an object with one. -/
def Frame.number? (f : Frame) : Option Int :=
  match f.inbound with
  | .record r => Response.id? r
  | _ => none

theorem Frame.inbound_eq_record_iff {f : Frame} : f.inbound = .record r ↔ f.read = .ok (.map r) := by
  unfold Frame.inbound
  split <;> simp_all

/-- The number of a record is an integer, or a truth value, which counts as 0 or 1. -/
theorem Response.id?_eq_some_iff {n : Int} : Response.id? r = some n ↔
    Value.getD r "id" = .int n ∨ ∃ b : Bool, Value.getD r "id" = .bool b ∧ n = b.toNat := by
  unfold Response.id?
  cases Value.getD r "id" with
  | bool b => cases b <;> simp [eq_comm]
  | _ => simp

def Json.Unreadable.failure : Json.Unreadable → Failure
  | .notText => .fault .notUnicode
  | .tooDeep => .fault .tooDeep
  | _ => .fault .unreadable

namespace Session

-- ---------------------------------------------------------------------------
-- What a frame reaches
-- ---------------------------------------------------------------------------

variable {f : Frame}

theorem number?_of_record (h : f.inbound = .record r) : f.number? = Response.id? r := by
  simp only [Frame.number?, h]

theorem number?_eq_some_iff {n : Int} : f.number? = some n ↔ ∃ r, f.read = .ok (.map r) ∧
    (Value.getD r "id" = .int n ∨ ∃ b : Bool, Value.getD r "id" = .bool b ∧ n = b.toNat) := by
  simp only [← Response.id?_eq_some_iff, ← Frame.inbound_eq_record_iff]
  unfold Frame.number?
  cases f.inbound <;> simp

theorem pendingCall?_eq_none_iff {s : Session} : s.pendingCall? r = none ↔
    ∀ e ∈ s.pending, Response.id? r ≠ some (e.1 : Int) := by
  unfold pendingCall?
  cases Response.id? r with
  | none => simp
  | some n =>
    simp only [Option.bind_some, List.find?_eq_none, beq_iff_eq, ne_eq, Option.some.injEq]
    exact forall₂_congr fun _ _ => not_congr eq_comm

theorem respond_adds (s : Session) (k : Nat) (r : Except Failure Value) : ∃ calls jobs,
    s.respond k r = { s with calls := calls, upcoming := s.upcoming ++ jobs } := by
  unfold respond setResponse
  split
  · simp only
    split
    · exact ⟨_, _, rfl⟩
    · exact ⟨_, [], by rw [List.append_nil]; rfl⟩
  · exact ⟨s.calls, [], by rw [List.append_nil]⟩

def extended (s : Session) (traces : List Trace) (jobs : List Job) : Session :=
  { s with
    traces := s.traces ++ traces
    upcoming := s.upcoming ++ jobs }

theorem extended_nil (s : Session) : s.extended [] [] = s := by
  simp [extended]

theorem logFrame_extended (s : Session) (traces : List Trace) (jobs : List Job) :
    ∃ more, (s.extended traces jobs).logFrame = s.extended more jobs := by
  simp only [logFrame, logError, note, extended, List.append_assoc]
  exact ⟨_, rfl⟩

/-- The calls that still wait for a response once a frame is handled. -/
def unanswered (s : Session) (f : Frame) : List (Nat × Nat) :=
  s.pending.filter fun e => f.number? ≠ some (e.1 : Int)

theorem unanswered_eq_self {s : Session} (h : ∀ e ∈ s.pending, f.number? ≠ some (e.1 : Int)) :
    unanswered s f = s.pending :=
  List.filter_eq_self.mpr fun e he => by simpa using h e he

theorem unanswered_eq_forget {s : Session} {n : Nat} (h : f.number? = some (n : Int)) :
    unanswered s f = (s.forget n).pending := by
  refine List.filter_congr fun e _ => ?_
  rw [h, decide_eq_decide, ne_eq, ne_eq, Option.some.injEq, Int.natCast_inj]
  exact not_congr eq_comm

/-- What a frame leaves of a session, apart from what it holds of calls and of what comes next. -/
structure Spared (f : Frame) (s t : Session) : Prop where
  frame : ∃ calls traces jobs, t = { s with
    calls := calls
    pending := unanswered s f
    traces := s.traces ++ traces
    upcoming := s.upcoming ++ jobs }
  /-- Only the call that the frame names gets anything, and only its response. -/
  call : ∀ k, t.call k ≠ s.call k → ∃ (n : Nat) (x : Except Failure Value),
    f.number? = some (n : Int) ∧ (n, k) ∈ s.pending ∧ (s.call k).response = some .pending ∧
      t.call k = { s.call k with response := some (.kept x) }

theorem spared_extended {s : Session} (h : ∀ e ∈ s.pending, f.number? ≠ some (e.1 : Int))
    (traces : List Trace) (jobs : List Job) : Spared f s (s.extended traces jobs) := by
  refine ⟨⟨s.calls, traces, jobs, ?_⟩, fun k hk => (hk rfl).elim⟩
  rw [unanswered_eq_self h]
  rfl

theorem spared_answer {s : Session} (hr : f.inbound = .record r)
    (h : s.pendingCall? r = some (n, k)) : Spared f s (s.answer n k r) := by
  obtain ⟨hmem, hid⟩ := pendingCall?_mem h
  have hnumber : f.number? = some (n : Int) := (number?_of_record hr).trans hid
  refine ⟨?_, fun j hj => ?_⟩
  · obtain ⟨calls, jobs, heq⟩ := respond_adds (s.forget n) k (Response.ofRecord r)
    refine ⟨calls, [], jobs, ?_⟩
    rw [answer, heq, unanswered_eq_forget hnumber, List.append_nil]
    rfl
  · have hcall := call_respond (s := s.forget n) (k := k) (r := Response.ofRecord r) (j := j)
    by_cases hwaits : j = k ∧ ((s.forget n).call k).isWaiting
    · obtain ⟨rfl, hwaiting⟩ := hwaits
      refine ⟨n, Response.ofRecord r, hnumber, hmem, isWaiting_iff.mp hwaiting, ?_⟩
      rw [answer, hcall, if_pos ⟨rfl, hwaiting⟩]
      rfl
    · rw [answer, hcall, if_neg hwaits] at hj
      exact (hj rfl).elim

-- ---------------------------------------------------------------------------
-- Handlers
-- ---------------------------------------------------------------------------

/-- A session with what its handler of notifications was told, and with what lies outside. -/
structure Attended (ω : Type) where
  session : Session
  told : List Value
  world : ω

variable {ω : Type}

/-- An action that may do anything outside, but does not operate the session. -/
def Aloof (act : Action (Attended ω) Unit) : Prop :=
  ∀ a, ∃ traces jobs world,
    (act a).2 = { a with session := a.session.extended traces jobs, world := world }

/-- A handler of notifications. It may fail. -/
structure Handler (ω : Type) where
  run : Value → Action (Attended ω) Unit
  aloof : ∀ m, Aloof (run m)

namespace Attended

def tell (h : Handler ω) (m : Value) : Action (Attended ω) Unit := do
  modify fun a => { a with told := a.told ++ [m] }
  h.run m

def change (f : Session → Session) : Action (Attended ω) Unit :=
  modify fun a => { a with session := f a.session }

/-- Gives a pending call its response, unless it has one or was given up. -/
def complete (id k : Nat) (r : List (Value × Value)) : Action (Attended ω) Unit := do
  change (·.forget id)
  match ((← get).session.call k).response with
  | some .pending =>
    match Value.getD r "error" with
    | .null => change (·.setResponse k (.kept (.ok (Value.getD r "result"))))
    | e => change (·.setResponse k (.kept (.error (.package (PackageError.ofResponse e)))))
  | _ => pure ()

def handleMessage (handler : Option (Handler ω)) (f : Frame) : Action (Attended ω) Unit :=
  match f.read with
  | .error .malformed => pure ()
  | .error e => throw e.failure
  | .ok (.map r) => do
    match (← get).session.pendingCall? r with
    | some (id, k) => complete id k r
    | none =>
      match Value.get? r "name", handler with
      | some name, some h => tell h (notice name (Value.getD r "data"))
      | _, _ => pure ()
  | .ok _ => pure ()

def receive (handler : Option (Handler ω)) (f : Frame) : Action (Attended ω) Unit :=
  tryCatch (handleMessage handler f) fun _ => change logFrame

def receiveAll (handler : Option (Handler ω)) : List Frame → Action (Attended ω) Unit
  | [] => pure ()
  | f :: fs => do
    receive handler f
    receiveAll handler fs

-- ---------------------------------------------------------------------------
-- Handlers of sessions
-- ---------------------------------------------------------------------------

def record (m : Value) : Action (Attended ω) Unit := change (·.note (.notified m))

def deliver : Value → Action (Attended ω) Unit
  | .map es =>
    match Value.getD es "name" with
    | .str event => change (·.enqueue (.deliver event (Value.getD es "data")))
    | _ => pure ()
  | _ => pure ()

theorem aloof_record (m : Value) : Aloof (ω := ω) (record m) := by
  intro a
  refine ⟨[.notified m], [], a.world, ?_⟩
  simp [record, change, Action.modify_run, note, extended]

theorem aloof_record_throw (m : Value) (e : Failure) :
    Aloof (ω := ω) (do record m; throw e) :=
  aloof_record m

theorem aloof_deliver (m : Value) : Aloof (ω := ω) (deliver m) := by
  intro a
  have hnothing : ∃ traces jobs world, (((pure () : Action (Attended ω) Unit) a).2) =
      { a with session := a.session.extended traces jobs, world := world } :=
    ⟨[], [], a.world, by rw [extended_nil]; rfl⟩
  cases m with
  | map es =>
    simp only [deliver]
    cases hname : Value.getD es "name" with
    | str event =>
      refine ⟨[], [.deliver event (Value.getD es "data")], a.world, ?_⟩
      simp [change, Action.modify_run, enqueue, extended]
    | _ => exact hnothing
  | _ => exact hnothing

def handler? : Notices → Option (Handler ω)
  | .ignored => none
  | .recorded => some ⟨record, aloof_record⟩
  | .raising => some ⟨fun m => do record m; throw (.runtime "handler"),
      fun m => aloof_record_throw m _⟩
  | .delivered => some ⟨deliver, aloof_deliver⟩

-- ---------------------------------------------------------------------------
-- Runs
-- ---------------------------------------------------------------------------

variable {a : Attended ω} {handler : Option (Handler ω)}

theorem inbound_eq (f : Frame) : f.inbound = match f.read with
    | .ok (.map r) => .record r
    | .ok _ => .other
    | .error .malformed => .other
    | .error _ => .unreadable := rfl

theorem complete_run (id k : Nat) (r : List (Value × Value)) (a : Attended ω) :
    complete id k r a = (.ok (), { a with session := a.session.answer id k r }) := by
  simp only [complete, change, Action.bind_run, Action.modify_run, Action.get_run, answer, respond]
  rcases ((a.session.forget id).call k).response with _ | (_ | _ | _)
  · rfl
  · unfold Response.ofRecord
    cases Value.getD r "error" <;> rfl
  · rfl
  · rfl

/-- What is there once a handler was told something, whether or not it failed. -/
def afterTelling (h : Handler ω) (m : Value) (a : Attended ω) : Attended ω :=
  match h.run m { a with told := a.told ++ [m] } with
  | (.ok _, b) => b
  | (.error _, b) => { b with session := b.session.logFrame }

theorem receive_run (handler : Option (Handler ω)) (f : Frame) (a : Attended ω) :
    receive handler f a = (.ok (), match f.inbound with
      | .other => a
      | .unreadable => { a with session := a.session.logFrame }
      | .record r =>
        match a.session.pendingCall? r with
        | some (id, k) => { a with session := a.session.answer id k r }
        | none =>
          match Value.get? r "name", handler with
          | some name, some h => afterTelling h (notice name (Value.getD r "data")) a
          | _, _ => a) := by
  simp only [receive, handleMessage, inbound_eq, Action.tryCatch_run]
  rcases f.read with e | v
  · cases e <;> rfl
  · cases v with
    | map r =>
      simp only [Action.bind_run, Action.get_run]
      rcases a.session.pendingCall? r with _ | ⟨id, k⟩
      · rcases Value.get? r "name" with _ | name
        · rfl
        · rcases handler with _ | h
          · rfl
          · simp only [tell, afterTelling, Action.bind_run, Action.modify_run]
            rcases h.run _ _ with ⟨_ | _, b⟩ <;> rfl
      · simp only [complete_run]
    | _ => rfl

theorem receiveAll_cons (handler : Option (Handler ω)) (f : Frame) (fs : List Frame)
    (a : Attended ω) :
    receiveAll handler (f :: fs) a = receiveAll handler fs (receive handler f a).2 := by
  simp only [receiveAll, Action.bind_run]
  rw [receive_run]

theorem getD_name (name data : Value) :
    Value.getD [(.str "name", name), (.str "data", data)] "name" = name := by
  simp [Value.getD, Value.get?, Value.lookup?, Value.same, Value.sameScalar, Value.numeric?]

theorem getD_data (name data : Value) :
    Value.getD [(.str "name", name), (.str "data", data)] "data" = data := by
  simp [Value.getD, Value.get?, Value.lookup?, Value.same, Value.sameScalar, Value.numeric?]

/-- The handler of a session does what the session itself does with a notification. -/
theorem session_receive (f : Frame) (a : Attended ω) :
    (receive (handler? a.session.notices) f a).2.session = a.session.handle f := by
  rw [receive_run, handle]
  cases f.inbound with
  | other => rfl
  | unreadable => rfl
  | record r =>
    simp only
    rcases a.session.pendingCall? r with _ | ⟨id, k⟩
    · rcases Value.get? r "name" with _ | name
      · rfl
      · simp only [notify]
        cases a.session.notices with
        | delivered =>
          simp only [handler?, afterTelling, deliver, notice, getD_name, getD_data]
          cases name <;> rfl
        | _ => rfl
    · rfl

theorem session_receiveAll (fs : List Frame) (a : Attended ω) (n : Notices)
    (h : a.session.notices = n) :
    (receiveAll (handler? n) fs a).2.session = fs.foldl handle a.session := by
  induction fs generalizing a with
  | nil => rfl
  | cons f fs ih =>
    obtain ⟨_, _, _, _, heq⟩ := handle_eq a.session f
    have hsession := session_receive f a
    rw [h] at hsession
    rw [receiveAll_cons, List.foldl_cons, ih _ (by rw [hsession, heq, h]), hsession]

-- ---------------------------------------------------------------------------
-- What a handler is told
-- ---------------------------------------------------------------------------

theorem afterTelling_eq (h : Handler ω) (m : Value) (a : Attended ω) : ∃ traces jobs world,
    afterTelling h m a = ⟨a.session.extended traces jobs, a.told ++ [m], world⟩ := by
  obtain ⟨traces, jobs, world, heq⟩ := h.aloof m { a with told := a.told ++ [m] }
  unfold afterTelling
  rcases hrun : h.run m { a with told := a.told ++ [m] } with ⟨e | _, b⟩ <;> rw [hrun] at heq
  · obtain rfl : b = _ := heq
    obtain ⟨more, hmore⟩ := logFrame_extended a.session traces jobs
    exact ⟨more, jobs, world, congrArg (Attended.mk · (a.told ++ [m]) world) hmore⟩
  · obtain rfl : b = _ := heq
    exact ⟨traces, jobs, world, rfl⟩

/-- What a frame does to a session and to what its handler was told. -/
structure Handled (handler : Option (Handler ω)) (f : Frame) (a b : Attended ω) : Prop where
  spared : Spared f a.session b.session
  told : (∃ r name, f.read = .ok (.map r) ∧ Value.get? r "name" = some name ∧ handler.isSome ∧
      (∀ e ∈ a.session.pending, f.number? ≠ some (e.1 : Int)) ∧
      b.told = a.told ++ [notice name (Value.getD r "data")]) ∨
    b.told = a.told ∧
      ¬((∃ r, f.read = .ok (.map r) ∧ (Value.get? r "name").isSome) ∧ handler.isSome ∧
        ∀ e ∈ a.session.pending, f.number? ≠ some (e.1 : Int))

theorem handled_of_not_record (handler : Option (Handler ω)) (a : Attended ω)
    (h : ∀ r, f.inbound ≠ .record r) (traces : List Trace) :
    Handled handler f a { a with session := a.session.extended traces [] } where
  spared := by
    refine spared_extended (fun e _ => ?_) traces []
    unfold Frame.number?
    cases hin : f.inbound with
    | record r => exact (h r hin).elim
    | _ => simp
  told := .inr ⟨rfl, fun ⟨⟨r, hr, _⟩, _⟩ => h r (Frame.inbound_eq_record_iff.mpr hr)⟩

theorem receive_handled (handler : Option (Handler ω)) (f : Frame) (a : Attended ω) :
    Handled handler f a (receive handler f a).2 := by
  rw [receive_run]
  cases hin : f.inbound with
  | other =>
    have h := handled_of_not_record handler a (by simp [hin] : ∀ r, f.inbound ≠ .record r) []
    rwa [extended_nil] at h
  | unreadable =>
    obtain ⟨traces, heq⟩ := logFrame_extended a.session [] []
    rw [extended_nil] at heq
    simp only [heq]
    exact handled_of_not_record handler a (by simp [hin]) traces
  | record r =>
    have hread := Frame.inbound_eq_record_iff.mp hin
    simp only
    cases hpending : a.session.pendingCall? r with
    | some e =>
      obtain ⟨hmem, hid⟩ := pendingCall?_mem hpending
      refine ⟨spared_answer hin hpending, .inr ⟨rfl, fun ⟨_, _, hnone⟩ => ?_⟩⟩
      exact hnone _ hmem ((number?_of_record hin).trans hid)
    | none =>
      have hnone := pendingCall?_eq_none_iff.mp hpending
      rw [← number?_of_record hin] at hnone
      have hspared := spared_extended hnone
      have hself : Spared f a.session a.session := by
        have h := hspared [] []
        rwa [extended_nil] at h
      cases hname : Value.get? r "name" with
      | none =>
        refine ⟨hself, .inr ⟨rfl, ?_⟩⟩
        rintro ⟨⟨r', hr', hsome⟩, -⟩
        obtain rfl := Value.map.inj (Except.ok.inj (hread.symm.trans hr'))
        simp [hname] at hsome
      | some name =>
        cases handler with
        | none => exact ⟨hself, .inr ⟨rfl, fun ⟨_, hsome, _⟩ => by simp at hsome⟩⟩
        | some h =>
          obtain ⟨traces, jobs, world, heq⟩ := afterTelling_eq h (notice name (Value.getD r "data")) a
          simp only [heq]
          exact ⟨hspared traces jobs, .inl ⟨r, name, hread, hname, rfl, hnone, rfl⟩⟩

/-- Handling a frame never ends the loop that received it: the frames behind are handled from what is
there then. The session keeps everything but what waits for the number that the frame carries (an
integer, or a truth value, which counts as 0 or 1), a response to the one call that is named by it, and
what is added to what others can see and to the jobs. The handler is told about the frame at most once,
exactly if the frame is read as an object with a name, there is a handler, and no pending call has the
number. It is what the session itself does with its own handler. -/
theorem frame_handled_apart (handler : Option (Handler ω)) (f : Frame) (a : Attended ω) :
    (∀ n, f.number? = some n ↔ ∃ r, f.read = .ok (.map r) ∧
      (Value.getD r "id" = .int n ∨ ∃ b : Bool, Value.getD r "id" = .bool b ∧ n = b.toNat)) ∧
      (∀ fs, receiveAll handler (f :: fs) a = receiveAll handler fs (receive handler f a).2) ∧
      Handled handler f a (receive handler f a).2 ∧
      ∀ fs, (receiveAll (handler? a.session.notices) fs a).2.session = fs.foldl handle a.session :=
  ⟨fun _ => number?_eq_some_iff, fun fs => receiveAll_cons handler f fs a,
    receive_handled handler f a, fun fs => session_receiveAll fs a _ rfl⟩

/-- A frame that carries `true` and a name answers the first call, and no handler is told. One that
carries the number of no call is told. -/
theorem true_answers_first_call :
    let s := (new "ws://host" false (.int 30) .recorded).afterAll
      [.begin ⟨"first", .list [], true, .socket⟩ none, .work, .work, .work, .work]
    let a : Attended Unit := ⟨s, [], ()⟩
    let both := Frame.text "\x7b\"id\": true, \"name\": \"tick\", \"result\": 5\x7d"
    let other := Frame.text "\x7b\"id\": 2, \"name\": \"tick\"\x7d"
    let answered := (receive (handler? .recorded) both a).2
    let told := (receive (handler? .recorded) other a).2
    s.pending = [(1, 0)] ∧
      both.number? = some 1 ∧ answered.session.pending = [] ∧ answered.told = [] ∧
      other.number? = some 2 ∧ told.session.pending = [(1, 0)] ∧
      ∃ data, told.told = [notice (.str "tick") data] := by
  intro s a both other answered told
  have hpending : s.pending = [(1, 0)] := by
    simp only [s]
    decide +kernel
  have hobject : Json.isObject (fun r => Response.id? r == some 1) both.read := by
    simp only [both]
    decide +kernel
  have hnotice : Json.isObject (fun r => Response.id? r == some 2 &&
      (Value.get? r "name").any (·.same (.str "tick"))) other.read := by
    simp only [other]
    decide +kernel
  obtain ⟨r, hr, hid⟩ := Json.object_of_isObject hobject
  obtain ⟨r', hr', hname⟩ := Json.object_of_isObject hnotice
  obtain ⟨hboth, -, hanswered, -⟩ := frame_handled_apart (handler? .recorded) both a
  obtain ⟨hother, -, htold, -⟩ := frame_handled_apart (handler? .recorded) other a
  have hone : both.number? = some 1 :=
    (hboth 1).mpr ⟨r, hr, Response.id?_eq_some_iff.mp (eq_of_beq hid)⟩
  obtain ⟨htwo, hname⟩ := (Bool.and_eq_true _ _).mp hname
  have htwo : other.number? = some 2 :=
    (hother 2).mpr ⟨r', hr', Response.id?_eq_some_iff.mp (eq_of_beq htwo)⟩
  obtain ⟨name, hname, htick⟩ := (Option.any_eq_true _ _).mp hname
  obtain rfl := Value.same_str_iff.mp htick
  have hfirst : (1, 0) ∈ a.session.pending := by simp [a, hpending]
  refine ⟨hpending, hone, ?_, ?_, htwo, ?_, ?_⟩
  · obtain ⟨_, _, _, hsession⟩ := hanswered.spared.frame
    rw [hsession]
    simp [unanswered, a, hpending, hone]
  · rcases hanswered.told with ⟨_, _, _, _, _, hnone, _⟩ | ⟨hsame, -⟩
    · exact absurd hone (hnone _ hfirst)
    · exact hsame
  · obtain ⟨_, _, _, hsession⟩ := htold.spared.frame
    rw [hsession]
    simp [unanswered, a, hpending, htwo]
  · rcases htold.told with ⟨q, name, hq, hqname, -, -, hmore⟩ | ⟨-, hnot⟩
    · obtain rfl := Value.map.inj (Except.ok.inj (hr'.symm.trans hq))
      obtain rfl := Option.some.inj (hname.symm.trans hqname)
      exact ⟨_, hmore⟩
    · refine (hnot ⟨⟨r', hr', by simp [hname]⟩, rfl, ?_⟩).elim
      simp [a, hpending, htwo]

/-- An object with a name is not told if an integer in it has too many digits. -/
theorem long_integer_is_not_told :
    let a : Attended Unit := ⟨new "ws://host" false (.int 30) .recorded, [], ()⟩
    let f := Frame.text (Json.longObject "data" 4300 "\"name\":\"tick\"\x7d")
    f.read = .error .tooLong ∧ (receive (handler? .recorded) f a).2.told = [] := by
  intro a f
  have hread : f.read = .error .tooLong := Json.read_longObject 983 "data" le_rfl _
  refine ⟨hread, ?_⟩
  rw [receive_run, inbound_eq, hread]

end Attended

end Session

end Farcall
