import Farcall.Proofs.Callers
import Farcall.Proofs.Session.Arrivals

/-!
# Notifications

A client on a loop puts off the notifications that arrive, and hands them over one at a time. So no
listener is called while a notification arrives; and whatever the listeners do, and whatever happens
in between, each notification is handed over once, in its turn, to those who listen by then.
-/

namespace Farcall

-- ---------------------------------------------------------------------------
-- Handing over
-- ---------------------------------------------------------------------------

namespace Client

open Station (Follows)

/-- Listeners are called with some data, one after the other, and none of them raises. -/
inductive Hear (data : Value) : List String → Client → Client → Prop
  | none : Hear data [] c c
  | next (hcall : Hub.call Station.surroundings name [.value data] c = (.ok (), d))
    (h : Hear data names d e) : Hear data (name :: names) c e

/-- What handing over a notification comes to. All who listen to it are called, or else the last one
that is called raises, the rest of them is not called, and that is logged. -/
inductive HandsOver (n : Notice) (c : Client) : List String → List String → Client → Prop
  | all (h : Hear n.data (c.listeners.of n.event) c d) :
    HandsOver n c (c.listeners.of n.event) [] d
  | cut (hlisteners : c.listeners.of n.event = called ++ name :: rest) (h : Hear n.data called c d)
    (hraises : Hub.call Station.surroundings name [.value n.data] d = (.error e, d')) :
    HandsOver n c (called ++ [name]) rest (Client.update d'
      (·.logEntry ("ERROR jsonws.runtime.proxy: Listener for event " ++ n.event ++ " raised")))

theorem Hear.heard (h : Hear data names c d) :
    d.around.heard = c.around.heard ++ names.map fun name => (name, [.value data]) := by
  induction h with
  | none => simp
  | @next name c d names e hcall _ ih =>
    have hfirst := (follows_call name [.value data] c).hears
    rw [hcall] at hfirst
    rw [ih, hfirst, List.map_cons, List.append_assoc, List.singleton_append]

/-- Who is called is called once, in the order of registration, with the data and nothing else. -/
theorem HandsOver.heard (h : HandsOver n c called rest d) :
    c.listeners.of n.event = called ++ rest ∧
    d.around.heard = c.around.heard ++ called.map fun name => (name, [.value n.data]) := by
  cases h with
  | all h => exact ⟨(List.append_nil _).symm, h.heard⟩
  | @cut called name rest d d' e hlisteners h hraises =>
    refine ⟨by rw [hlisteners, List.append_assoc, List.singleton_append], ?_⟩
    have hlast := (follows_call name [.value n.data] d).hears
    rw [hraises] at hlast
    calc d'.around.heard = d.around.heard ++ [(name, [.value n.data])] := hlast
      _ = c.around.heard ++ (called ++ [name]).map fun name => (name, [.value n.data]) := by
        rw [h.heard, List.map_append, List.append_assoc, List.map_singleton]

theorem callEach_cases (data : Value) (names : List String) (c : Client) :
    (∃ d, Hear data names c d ∧
      Hub.callEach Station.surroundings [.value data] names c = (.ok (), d)) ∨
    ∃ called name rest d e d', names = called ++ name :: rest ∧ Hear data called c d ∧
      Hub.call Station.surroundings name [.value data] d = (.error e, d') ∧
      Hub.callEach Station.surroundings [.value data] names c = (.error e, d') := by
  induction names generalizing c with
  | nil => exact .inl ⟨c, .none, rfl⟩
  | cons name names ih =>
    rw [Hub.callEach, Action.bind_run]
    rcases hcall : Hub.call Station.surroundings name [.value data] c with ⟨e | _, d⟩
    · exact .inr ⟨[], name, names, c, e, d, rfl, .none, hcall, rfl⟩
    · rcases ih d with ⟨d', hear, hrun⟩ | ⟨called, last, rest, d', e, f, rfl, hear, hraises, hrun⟩
      · exact .inl ⟨d', .next hcall hear, hrun⟩
      · exact .inr ⟨name :: called, last, rest, d', e, f, rfl, .next hcall hear, hraises, hrun⟩

theorem handsOver_deliver (n : Notice) (c : Client) :
    ∃ called rest, HandsOver n c called rest (c.deliver n.event n.data) := by
  unfold Client.deliver
  simp only [ExceptT.run, Hub.emit, Action.bind_run, Action.get_run]
  rcases callEach_cases n.data (c.listeners.of n.event) c with
    ⟨d, hear, hrun⟩ | ⟨called, name, rest, d, e, d', hlisteners, hear, hraises, hrun⟩
  · rw [hrun]
    exact ⟨_, _, .all hear⟩
  · rw [hrun]
    exact ⟨_, _, .cut hlisteners hear hraises⟩

-- ---------------------------------------------------------------------------
-- Moves of a client
-- ---------------------------------------------------------------------------

inductive Move where
  /-- Listeners are registered and removed, and may be called for other reasons. -/
  | operate (op : Hub.Operation)
  | call (r : Request) (callback : Option Value)
  /-- The line hands in what may be a notification. -/
  | notify (message : List (Value × Value))
  /-- Something happens to the session from outside. -/
  | session (m : Session.Move) (outside : m ≠ .work)
  /-- A recorder fails calls from now on, or takes them down. -/
  | refuse (text : Option String)
  /-- The loop does the next piece of work. -/
  | work

def after (c : Client) : Move → Client
  | .operate op => Hub.after Station.surroundings c op
  | .call r callback => (Hub.outside (Station.call r callback) c).2
  | .notify message => c.notify message
  | .session m _ => (c.updateSession (·.after m)).drain
  | .refuse text =>
    c.update fun s =>
      match s.line with
      | .recorder x => { s with line := .recorder { x with refusal := text } }
      | .session _ => s
  | .work => c.step?.getD (c.updateSession Session.idle)

def notice? (message : List (Value × Value)) : Option Notice :=
  Notice.of? (Value.getD message "name") (Value.getD message "data")

def arrivalsIn (c : Client) : Move → List Notice
  | .notify message => (notice? message).toList
  | .session m _ => (c.session?.map fun s => s.arrivalsIn m).getD []
  | .work => (c.session?.map fun s => s.arrivalsIn .work).getD []
  | _ => []

/-- A notification that is handed over, with the client before and after. -/
structure Delivery where
  notice : Notice
  before : Client
  after : Client

/-- The notification whose turn it is, and the client that has taken it to hand it over. -/
def next? (c : Client) : Option (Notice × Client) :=
  match c.around.line with
  | .session s => s.next.bind fun (j, t) => j.notice?.map fun n => (n, c.updateSession fun _ => t)
  | .recorder x =>
    match x.waiting with
    | (event, data) :: rest => some (⟨event, data⟩,
        c.update fun s => { s with line := .recorder { x with waiting := rest } })
    | [] => none

def deliveryIn (c : Client) : Move → Option Delivery
  | .work => c.next?.map fun (n, d) => ⟨n, d, c.after .work⟩
  | _ => none

def afterAll (c : Client) (ms : List Move) : Client := ms.foldl after c

def deliveriesInAll (c : Client) : List Move → List Delivery
  | [] => []
  | m :: ms => (c.deliveryIn m).toList ++ (c.after m).deliveriesInAll ms

/-- A run of a new client on a loop, on a recorder or a session, with the notifications that arrived
in it and those that were handed over. Its listeners may do anything. -/
inductive Run : List Notice → List Delivery → Client → Prop
  | recorder (refusal : Option String)
    (reaction : String → List Argument → Listeners → List (String × List Argument) → Reaction) :
    Run [] [] ⟨.empty, { Station.new (.recorder ⟨refusal, [], 0, []⟩) true with reaction }⟩
  | session (address : String) (customEncryption : Bool) (timeout : Value)
    (reaction : String → List Argument → Listeners → List (String × List Argument) → Reaction) :
    Run [] [] ⟨.empty, { Station.new
      (.session (Session.new address customEncryption timeout .delivered)) true with reaction }⟩
  | move (h : Run arrived delivered c) (m : Move) :
    Run (arrived ++ c.arrivalsIn m) (delivered ++ (c.deliveryIn m).toList) (c.after m)

-- ---------------------------------------------------------------------------
-- What waits
-- ---------------------------------------------------------------------------

/-- The work that is ready, with the notifications that wait at a recorder as jobs. -/
def backlog (c : Client) : List Job :=
  match c.around.line with
  | .recorder x => x.waiting.map fun (event, data) => .deliver event data
  | .session s => s.ready

def queued (c : Client) : List Notice := c.backlog.filterMap Job.notice?

def Move.works : Move → Nat
  | .work => 1
  | _ => 0

def works : List Move → Nat
  | [] => 0
  | m :: ms => m.works + works ms

/-- A client on a loop that gets the notifications of its session and has followed all that it did. -/
structure Attentive (c : Client) : Prop where
  hasLoop : c.around.hasLoop = true
  looked : ∀ s, c.around.line = .session s → s.traces = []
  notices : ∀ s, c.around.line = .session s → s.notices = .delivered

/-- Some work is left, and more stands behind it, with some notifications. -/
structure Queues (left : List Job) (ns : List Notice) (c : Client) : Prop where
  attentive : c.Attentive
  backlog : ∃ js, c.backlog = left ++ js ∧ js.filterMap Job.notice? = ns

variable {c d : Client} {left js : List Job} {ns : List Notice} {s t : Session}

theorem backlog_session (hline : c.around.line = .session s) : c.backlog = s.ready := by
  rw [Client.backlog, hline]

theorem backlog_recorder (hline : c.around.line = .recorder x) :
    c.backlog = x.waiting.map fun (event, data) => .deliver event data := by
  rw [Client.backlog, hline]

theorem queues_session (hline : c.around.line = .session t) (hloop : c.around.hasLoop = true)
    (hlooked : t.traces = []) (hnotices : t.notices = .delivered) (hready : t.ready = left ++ js)
    (hns : js.filterMap Job.notice? = ns) : Queues left ns c := by
  have hsame {u : Session} (hu : c.around.line = .session u) : u = t := by
    rw [hline] at hu
    exact (Line.session.inj hu).symm
  exact ⟨⟨hloop, fun u hu => hsame hu ▸ hlooked, fun u hu => hsame hu ▸ hnotices⟩, js,
    (backlog_session hline).trans hready, hns⟩

theorem queues_recorder (hline : c.around.line = .recorder x) (hloop : c.around.hasLoop = true)
    (hwaiting : x.waiting.map (fun (event, data) => Job.deliver event data) = left ++ js)
    (hns : js.filterMap Job.notice? = ns) : Queues left ns c := by
  have hnone {u : Session} : c.around.line ≠ .session u := by simp [hline]
  exact ⟨⟨hloop, fun u hu => (hnone hu).elim, fun u hu => (hnone hu).elim⟩, js,
    (backlog_recorder hline).trans hwaiting, hns⟩

theorem Queues.append (h : Queues left ns c) (h' : Queues c.backlog [] d) : Queues left ns d := by
  obtain ⟨js, hjs, hns⟩ := h.backlog
  obtain ⟨js', hjs', hnone⟩ := h'.backlog
  refine ⟨h'.attentive, js ++ js', by rw [hjs', hjs, List.append_assoc], ?_⟩
  rw [List.filterMap_append, hns, hnone, List.append_nil]

theorem Attentive.queues (h : c.Attentive) : Queues c.backlog [] c :=
  ⟨h, [], (List.append_nil _).symm, rfl⟩

-- ---------------------------------------------------------------------------
-- Followers
-- ---------------------------------------------------------------------------

theorem beginAll_spec (s : Session) (rs : List Request) :
    (s.beginAll rs).traces = s.traces ∧ (s.beginAll rs).notices = s.notices ∧
      ∃ js, (s.beginAll rs).ready = s.ready ++ js ∧ js.filterMap Job.notice? = [] := by
  induction rs generalizing s with
  | nil => exact ⟨rfl, rfl, [], (List.append_nil _).symm, rfl⟩
  | cons r rs ih =>
    obtain ⟨htraces, hnotices, js, hready, hjs⟩ := ih (s.begin r none)
    refine ⟨htraces, hnotices, .guard s.calls.length :: js, ?_, hjs⟩
    calc ((s.begin r none).beginAll rs).ready = (s.begin r none).ready ++ js := hready
      _ = s.ready ++ .guard s.calls.length :: js := by
        rw [Session.begin, Session.ready_enqueue, List.append_assoc, List.singleton_append]
        rfl

theorem Attentive.follows (h : c.Attentive) (hf : Follows heard c.around d.around) :
    Queues c.backlog [] d := by
  have hloop : d.around.hasLoop = true := hf.hasLoop.trans h.hasLoop
  cases hline : c.around.line with
  | session s =>
    obtain ⟨rs, hrs⟩ := hf.begins s hline
    obtain ⟨htraces, hnotices, js, hready, hjs⟩ := beginAll_spec s rs
    rw [backlog_session hline]
    exact queues_session hrs hloop (htraces.trans (h.looked s hline))
      (hnotices.trans (h.notices s hline)) hready hjs
  | recorder x =>
    obtain ⟨calls, hcalls⟩ := hf.records x hline
    rw [backlog_recorder hline]
    exact queues_recorder hcalls hloop (List.append_nil _).symm rfl

/-- What a session has done is followed, and nothing that waits gets lost. -/
theorem queues_drain (hline : c.around.line = .session t) (hloop : c.around.hasLoop = true)
    (hnotices : t.notices = .delivered) (hready : t.ready = left ++ js)
    (hns : js.filterMap Job.notice? = ns) : Queues left ns c.drain := by
  obtain ⟨rs, heard, hdrained, -, -, hkept⟩ := drain_spec hline
  obtain ⟨htraces, hkeeps, more, hmore, hnone⟩ := beginAll_spec (t.after .observe) rs
  have hall : ((t.after .observe).beginAll rs).ready = left ++ (js ++ more) := by
    have hsame : (t.after .observe).ready = t.ready := rfl
    rw [hmore, hsame, hready, List.append_assoc]
  refine queues_session hdrained (hkept.trans hloop) htraces (hkeeps.trans hnotices) hall ?_
  rw [List.filterMap_append, hns, hnone, List.append_nil]

theorem drain_untold (hline : c.around.line = .session t) (h : ∀ x ∈ t.traces, x.isTold = false) :
    c.drain.listeners = c.listeners ∧ c.drain.around.heard = c.around.heard := by
  have hall (ts : List Trace) (hts : ∀ x ∈ ts, x.isTold = false) (c : Client) :
      (ts.foldl follow c).listeners = c.listeners ∧
        (ts.foldl follow c).around.heard = c.around.heard := by
    induction ts generalizing c with
    | nil => exact ⟨rfl, rfl⟩
    | cons x ts ih =>
      obtain ⟨hx, hrest⟩ := List.forall_mem_cons.mp hts
      obtain ⟨hlisteners, hheard⟩ := ih hrest (c.follow x)
      have hfirst : (c.follow x).listeners = c.listeners ∧
          (c.follow x).around.heard = c.around.heard := by
        cases x with
        | delivered event data => cases hx
        | reported method callback o => cases hx
        | _ => exact ⟨rfl, rfl⟩
      exact ⟨hlisteners.trans hfirst.1, hheard.trans hfirst.2⟩
  rw [drain_eq hline]
  exact hall t.traces h _

-- ---------------------------------------------------------------------------
-- Moves from outside
-- ---------------------------------------------------------------------------

theorem session?_eq (hline : c.around.line = .session s) : c.session? = some s := by
  rw [Client.session?, hline]

theorem line_of_session? (h : c.session? = some s) : c.around.line = .session s := by
  unfold Client.session? at h
  split at h
  · rename_i hline
    cases h
    exact hline
  · cases h

theorem updateSession_eq (hline : c.around.line = .session s) (f : Session → Session) :
    c.updateSession f = c.update fun st => { st with line := .session (f s) } := by
  simp only [Client.updateSession, Client.update, hline]

theorem Attentive.operate (h : c.Attentive) (op : Hub.Operation) :
    Queues c.backlog [] (c.after (.operate op)) := by
  have hstable := stable_follows c.around
  have hrefl := Station.follows_refl c.around
  cases op with
  | add event listener =>
    cases listener with
    | none => exact h.queues
    | some listener => exact h.follows (hstable.add event listener c hrefl)
  | remove event listener =>
    cases listener with
    | none => exact h.queues
    | some listener => exact h.follows (hstable.remove event listener c hrefl)
  | clear event => exact h.follows (hstable.clear event c hrefl)
  | emit event args =>
    obtain ⟨heard, hf⟩ := follows_emit event args c
    exact h.follows hf

theorem Attentive.call (h : c.Attentive) (r : Request) (callback : Option Value) :
    Queues c.backlog [] (c.after (.call r callback)) := by
  obtain ⟨listeners, ⟨line, hasLoop, heard, log, traces, reaction⟩⟩ := c
  obtain rfl : hasLoop = true := h.hasLoop
  cases line with
  | session s =>
    exact queues_session rfl rfl (h.looked s rfl) (h.notices s rfl) (Session.ready_begin s r callback)
      rfl
  | recorder x =>
    obtain ⟨refusal, calls, closings, waiting⟩ := x
    cases refusal with
    | some text => exact h.queues
    | none => exact queues_recorder rfl rfl (List.append_nil _).symm rfl

theorem Attentive.notify (h : c.Attentive) (message : List (Value × Value)) :
    Queues c.backlog (notice? message).toList (c.after (.notify message)) := by
  unfold Client.notice? Client.after Client.notify
  simp only
  cases hname : Value.getD message "name" with
  | str event =>
    simp only [h.hasLoop, Bool.not_true, Bool.false_eq_true, if_false]
    cases hline : c.around.line with
    | session s =>
      obtain ⟨js, hready, hjs⟩ :=
        (Session.adds_job s (.deliver event (Value.getD message "data"))).ready
      rw [backlog_session hline]
      refine queues_session (t := s.enqueue (.deliver event (Value.getD message "data"))) ?_ ?_
        (h.looked s hline) (h.notices s hline) hready hjs
      · simp only [Client.update, hline]
      · simp only [Client.update, hline]
        exact h.hasLoop
    | recorder x =>
      have hwaiting : (x.waiting ++ [(event, Value.getD message "data")]).map
          (fun (event, data) => Job.deliver event data) =
          x.waiting.map (fun (event, data) => Job.deliver event data) ++
            [.deliver event (Value.getD message "data")] := by simp
      rw [backlog_recorder hline]
      refine queues_recorder
        (x := { x with waiting := x.waiting ++ [(event, Value.getD message "data")] }) ?_ ?_ hwaiting
        rfl
      · simp only [Client.update, hline]
      · simp only [Client.update, hline]
        exact h.hasLoop
  | _ => exact h.queues

theorem Attentive.session (h : c.Attentive) (m : Session.Move) (hm : m ≠ .work) :
    Queues c.backlog (c.arrivalsIn (.session m hm)) (c.after (.session m hm)) := by
  cases hline : c.around.line with
  | session s =>
    simp only [Client.arrivalsIn, Client.after, session?_eq hline, updateSession_eq hline,
      backlog_session hline]
    by_cases hcalls : ∀ r callback, m ≠ .begin r callback
    · have hadds := Session.adds_after (h.looked s hline) hm hcalls
      obtain ⟨js, hready, hjs⟩ := hadds.ready
      exact queues_drain rfl h.hasLoop (hadds.notices.trans (h.notices s hline)) hready hjs
    · obtain ⟨r, callback, rfl⟩ : ∃ r callback, m = .begin r callback := by simpa using hcalls
      exact queues_drain rfl h.hasLoop (h.notices s hline) (Session.ready_begin s r callback) rfl
  | recorder x =>
    have hnone : c.session? = none := by rw [Client.session?, hline]
    have hsame : c.updateSession (·.after m) = c := by
      simp only [Client.updateSession, Client.update, hline]
    simp only [Client.arrivalsIn, Client.after, hsame, Client.drain, hnone]
    exact h.queues

theorem Attentive.refuse (h : c.Attentive) (text : Option String) :
    Queues c.backlog [] (c.after (.refuse text)) := by
  obtain ⟨listeners, ⟨line, hasLoop, heard, log, traces, reaction⟩⟩ := c
  cases line with
  | session s => exact h.queues
  | recorder x => exact queues_recorder rfl h.hasLoop (List.append_nil _).symm rfl

-- ---------------------------------------------------------------------------
-- Work
-- ---------------------------------------------------------------------------

theorem after_work_session (hline : c.around.line = .session s) : c.after .work =
    match s.next with
    | some (j, t) => (c.update fun st => { st with line := .session (t.perform j) }).drain
    | none => c.update fun st => { st with line := .session s.idle } := by
  have hsame (f : Session → Session) := updateSession_eq hline f
  simp only [Client.after, Client.step?, hline, Session.step, hsame]
  cases s.next <;> rfl

theorem perform_telling (t : Session) (hj : j.isTelling = true) : (t.perform j).ready = t.ready ∧
    (t.perform j).notices = t.notices ∧ (t.perform j).calls = t.calls ∧ t.handledBy j = [] := by
  cases j with
  | deliver event data => exact ⟨rfl, rfl, rfl, rfl⟩
  | report k =>
    unfold Session.perform Session.reportCall
    simp only
    split <;> exact ⟨rfl, rfl, rfl, rfl⟩
  | _ => cases hj

theorem Attentive.work (h : c.Attentive) :
    Queues (c.backlog.drop 1) (c.arrivalsIn .work) (c.after .work) := by
  cases hline : c.around.line with
  | session s =>
    rw [after_work_session hline, backlog_session hline]
    simp only [Client.arrivalsIn, session?_eq hline, Option.map_some, Option.getD_some,
      Session.arrivalsIn, Session.handledIn]
    cases hnext : s.next with
    | none =>
      obtain ⟨ks, hks⟩ := Session.ready_beginRound (Session.jobs_of_next_eq_none hnext)
      have hready : s.idle.ready = s.ready.drop 1 ++ ks.map .alarm := by
        rw [Session.ready_of_next_eq_none hnext] at hks ⊢
        exact hks
      exact queues_session rfl h.hasLoop (h.looked s hline) (h.notices s hline) hready
        (by simp [Job.notice?, Session.arrivals])
    | some next =>
      obtain ⟨j, t⟩ := next
      obtain ⟨js, hready, hjs, -⟩ := Session.ready_of_next hnext
      have hnotices : t.notices = .delivered := by
        obtain ⟨_, _, _, rfl⟩ := Session.next_eq hnext
        exact h.notices s hline
      cases hj : j.isTelling with
      | true =>
        obtain ⟨hsame, hkept, -, hnone⟩ := perform_telling t hj
        refine queues_drain rfl h.hasLoop (hkept.trans hnotices) (hsame.trans hready) ?_
        simp only [hnone]
        exact hjs
      | false =>
        have hadds := Session.adds_perform hnotices hj
        obtain ⟨more, hmore, hns⟩ := hadds.ready
        have hall : (t.perform j).ready = s.ready.drop 1 ++ (js ++ more) := by
          rw [hmore, hready, List.append_assoc]
        refine queues_drain rfl h.hasLoop (hadds.notices.trans hnotices) hall ?_
        rw [List.filterMap_append, hjs, hns, List.nil_append]
  | recorder x =>
    obtain ⟨listeners, ⟨line, hasLoop, heard, log, traces, reaction⟩⟩ := c
    obtain ⟨refusal, calls, closings, waiting⟩ := x
    subst hline
    cases waiting with
    | nil => exact h.queues
    | cons first rest =>
      obtain ⟨event, data⟩ := first
      -- the client that has taken the notification hands it over
      have htaken : Queues (rest.map fun (event, data) => Job.deliver event data) []
          ⟨listeners, ⟨.recorder ⟨refusal, calls, closings, rest⟩, hasLoop, heard, log, traces,
            reaction⟩⟩ :=
        queues_recorder rfl h.hasLoop (List.append_nil _).symm rfl
      obtain ⟨heard', hf⟩ := follows_deliver event data _
      exact htaken.append (htaken.attentive.follows hf)

/-- In each move, whatever waits stays in its place behind what is done, and what arrives comes behind
it. -/
theorem Attentive.after (h : c.Attentive) (m : Move) :
    Queues (c.backlog.drop m.works) (c.arrivalsIn m) (c.after m) := by
  cases m with
  | operate op => exact h.operate op
  | call r callback => exact h.call r callback
  | notify message => exact h.notify message
  | session m hm => exact h.session m hm
  | refuse text => exact h.refuse text
  | work => exact h.work

/-- What is handed over in a move is the notification whose turn it is. -/
theorem notices_deliveryIn (c : Client) (m : Move) :
    (c.deliveryIn m).toList.map Delivery.notice =
      (c.backlog.take m.works).filterMap Job.notice? := by
  cases m with
  | work =>
    unfold Client.deliveryIn Client.next? Client.backlog
    cases hline : c.around.line with
    | session s =>
      simp only [Move.works]
      cases hnext : s.next with
      | none => simp [Session.ready_of_next_eq_none hnext]
      | some next =>
        obtain ⟨j, t⟩ := next
        obtain ⟨-, -, -, hfirst⟩ := Session.ready_of_next hnext
        rw [hfirst]
        cases hj : j.notice? <;> simp [hj]
    | recorder x =>
      simp only [Move.works]
      cases x.waiting with
      | nil => rfl
      | cons first rest => rfl
  | _ => rfl

/-- Whoever is told of a notification is told by the client that has taken it. -/
theorem Attentive.after_work (h : c.Attentive) (hnext : c.next? = some (n, d)) :
    d.listeners = c.listeners ∧ d.around.heard = c.around.heard ∧
      c.after .work = d.deliver n.event n.data := by
  cases hline : c.around.line with
  | session s =>
    simp only [Client.next?, hline, Option.bind_eq_some_iff, Option.map_eq_some_iff,
      Prod.mk.injEq] at hnext
    obtain ⟨⟨j, t⟩, hjob, n', hj, rfl, rfl⟩ := hnext
    cases j with
    | deliver event data =>
      obtain rfl : (⟨event, data⟩ : Notice) = n' := Option.some.inj hj
      have hlooked : t.traces = [] := by
        obtain ⟨_, _, _, rfl⟩ := Session.next_eq hjob
        exact h.looked s hline
      rw [after_work_session hline, hjob, updateSession_eq hline]
      refine ⟨rfl, rfl, ?_⟩
      simp only
      rw [drain_eq (s := t.note (.delivered event data)) rfl]
      have hkept : (t.note (.delivered event data)).after .observe = t := by
        show { t with traces := [] } = t
        rw [← hlooked]
      rw [hkept, Session.note, hlooked]
      rfl
    | _ => cases hj
  | recorder x =>
    simp only [Client.next?, hline] at hnext
    split at hnext
    · rename_i event data rest hwaiting
      cases hnext
      refine ⟨rfl, rfl, ?_⟩
      simp only [Client.after, Client.step?, Client.handOver?, hline, hwaiting]
      rfl
    · cases hnext

/-- While a notification arrives nobody is called, and none is handed over. -/
theorem Attentive.arrival (h : c.Attentive) (ha : c.arrivalsIn m ≠ []) :
    c.deliveryIn m = none ∧ (c.after m).listeners = c.listeners ∧
      (c.after m).around.heard = c.around.heard := by
  cases m with
  | operate op => exact absurd rfl ha
  | call r callback => exact absurd rfl ha
  | refuse text => exact absurd rfl ha
  | notify message =>
    refine ⟨rfl, ?_⟩
    simp only [Client.after, Client.notify, h.hasLoop, Bool.not_true, Bool.false_eq_true, if_false]
    split
    · cases hline : c.around.line <;> simp [Client.update, hline]
    · exact ⟨rfl, rfl⟩
  | session m hm =>
    cases hline : c.around.line with
    | recorder x => simp [Client.arrivalsIn, Client.session?, hline] at ha
    | session s =>
      have hcalls (r : Request) (callback : Option Value) : m ≠ .begin r callback := by
        rintro rfl
        simp [Client.arrivalsIn, session?_eq hline, Session.arrivalsIn, Session.handledIn,
          Session.arrivals] at ha
      obtain ⟨ts, hts, huntold⟩ := (Session.adds_after (h.looked s hline) hm hcalls).traces
      rw [h.looked s hline, List.nil_append] at hts
      refine ⟨rfl, ?_⟩
      simp only [Client.after, updateSession_eq hline]
      exact drain_untold (t := s.after m) rfl (hts ▸ huntold)
  | work =>
    cases hline : c.around.line with
    | recorder x => simp [Client.arrivalsIn, Client.session?, hline] at ha
    | session s =>
      simp only [Client.arrivalsIn, session?_eq hline, Option.map_some, Option.getD_some,
        Session.arrivalsIn, Session.handledIn] at ha
      rw [after_work_session hline]
      cases hnext : s.next with
      | none => simp [hnext, Session.arrivals] at ha
      | some next =>
        obtain ⟨j, t⟩ := next
        simp only [hnext] at ha
        -- whoever reads frames tells nobody anything
        have hj : j.isTelling = false := by
          by_contra htells
          rw [(perform_telling t (by simpa using htells)).2.2.2] at ha
          exact ha rfl
        have hnone : j.notice? = none := by
          cases j with
          | deliver event data => cases hj
          | _ => rfl
        have hsame : t.notices = .delivered ∧ t.traces = [] := by
          obtain ⟨_, _, _, rfl⟩ := Session.next_eq hnext
          exact ⟨h.notices s hline, h.looked s hline⟩
        obtain ⟨ts, hts, huntold⟩ := (Session.adds_perform hsame.1 hj).traces
        rw [hsame.2, List.nil_append] at hts
        refine ⟨by simp [Client.deliveryIn, Client.next?, hline, hnext, hnone], ?_⟩
        exact drain_untold (t := t.perform j) rfl (hts ▸ huntold)

-- ---------------------------------------------------------------------------
-- Runs
-- ---------------------------------------------------------------------------

theorem queued_of_queues (h : Queues left ns c) :
    c.queued = left.filterMap Job.notice? ++ ns := by
  obtain ⟨js, hjs, hns⟩ := h.backlog
  rw [Client.queued, hjs, List.filterMap_append, hns]

/-- In each move, what waits and what arrives is what is handed over and what waits then. -/
theorem Attentive.conserves (h : c.Attentive) (m : Move) : c.queued ++ c.arrivalsIn m =
    (c.deliveryIn m).toList.map Delivery.notice ++ (c.after m).queued := by
  rw [notices_deliveryIn, queued_of_queues (h.after m), ← List.append_assoc, ← List.filterMap_append,
    List.take_append_drop, Client.queued]

theorem Run.moves (h : Run arrived delivered c) (ms : List Move) :
    ∃ more, Run (arrived ++ more) (delivered ++ c.deliveriesInAll ms) (c.afterAll ms) := by
  induction ms generalizing arrived delivered c with
  | nil => exact ⟨[], by simpa [deliveriesInAll, afterAll] using h⟩
  | cons m ms ih =>
    obtain ⟨more, hmore⟩ := ih (h.move m)
    exact ⟨c.arrivalsIn m ++ more, by simpa [deliveriesInAll, afterAll] using hmore⟩

theorem attentive_of_run (h : Run arrived delivered c) : c.Attentive := by
  induction h with
  | recorder refusal reaction =>
    exact ⟨rfl, fun s hs => (by cases hs), fun s hs => (by cases hs)⟩
  | session address customEncryption timeout reaction =>
    refine ⟨rfl, fun s hs => ?_, fun s hs => ?_⟩ <;> cases hs <;> rfl
  | move _ m ih => exact (ih.after m).attentive

theorem run_conserves (h : Run arrived delivered c) :
    arrived = delivered.map Delivery.notice ++ c.queued := by
  induction h with
  | recorder refusal reaction => rfl
  | session address customEncryption timeout reaction => rfl
  | @move arrived delivered c h m ih =>
    have hstep := (attentive_of_run h).conserves m
    calc arrived ++ c.arrivalsIn m
        = delivered.map Delivery.notice ++ (c.queued ++ c.arrivalsIn m) := by
          rw [ih, List.append_assoc]
      _ = (delivered ++ (c.deliveryIn m).toList).map Delivery.notice ++ (c.after m).queued := by
          rw [hstep, List.map_append, List.append_assoc]

theorem Attentive.handsOver {x : Delivery} (h : c.Attentive) (hx : c.deliveryIn m = some x) :
    ∃ called rest, HandsOver x.notice x.before called rest x.after := by
  cases m with
  | work =>
    obtain ⟨⟨n, before⟩, hnext, rfl⟩ := Option.map_eq_some_iff.mp hx
    obtain ⟨-, -, hafter⟩ := h.after_work hnext
    simp only [hafter]
    exact handsOver_deliver n before
  | _ => cases hx

theorem handsOver_of_run {x : Delivery} (h : Run arrived delivered c) (hx : x ∈ delivered) :
    ∃ called rest, HandsOver x.notice x.before called rest x.after := by
  induction h with
  | recorder refusal reaction => cases hx
  | session address customEncryption timeout reaction => cases hx
  | move h m ih =>
    rcases List.mem_append.mp hx with hx | hx
    · exact ih hx
    · exact (attentive_of_run h).handsOver (Option.mem_toList.mp hx)

/-- What stands first among the work is done as soon as there is enough work. -/
theorem Attentive.delivers (h : c.Attentive) (hfirst : js <+: c.backlog) (ms : List Move)
    (hworks : js.length ≤ works ms) :
    js.filterMap Job.notice? <+: (c.deliveriesInAll ms).map Delivery.notice := by
  induction ms generalizing c js with
  | nil =>
    obtain rfl : js = [] := List.length_eq_zero_iff.mp (Nat.le_zero.mp hworks)
    exact List.nil_prefix
  | cons m ms ih =>
    rw [works] at hworks
    obtain ⟨rest, hrest⟩ := hfirst
    obtain ⟨more, hmore, -⟩ := (h.after m).backlog
    have hleft : js.drop m.works <+: (c.after m).backlog := by
      rw [hmore, ← hrest, List.drop_append, List.append_assoc]
      exact List.prefix_append _ _
    have hlater := ih (h.after m).attentive hleft (by rw [List.length_drop]; omega)
    rw [deliveriesInAll, List.map_append, notices_deliveryIn, ← hrest]
    cases hjs : js with
    | nil => exact List.nil_prefix
    | cons j tail =>
      have htake : (js ++ rest).take m.works = js.take m.works := by
        refine List.take_append_of_le_length ?_
        cases m <;> simp [Move.works, hjs]
      rw [hjs] at htake hlater
      rw [htake]
      conv_lhs => rw [← List.take_append_drop m.works (j :: tail), List.filterMap_append]
      exact (List.prefix_append_right_inj _).mpr hlater

/-- In every run of a client on a loop, whatever its listeners do and whatever happens in between: the
notifications with a name that is a text are handed over once each and in the order in which they
arrived, and those that are not handed over yet wait in that order. Each is handed over with its data as
the only argument to those who listen to its name at that moment, in order; only a listener that raises
keeps it from the listeners after that one, and this is logged. In a move in which a notification
arrives, none is handed over and nobody is called. And whatever waits is handed over, in order, once the
loop has done as much work as there is by now, whatever else happens meanwhile. -/
theorem notifications_delivered_once (h : Run arrived delivered c) :
    arrived = delivered.map Delivery.notice ++ c.queued ∧
    (∀ d ∈ delivered, ∃ called rest, HandsOver d.notice d.before called rest d.after ∧
      d.before.listeners.of d.notice.event = called ++ rest ∧
      d.after.around.heard =
        d.before.around.heard ++ called.map fun name => (name, [.value d.notice.data])) ∧
    (∀ m d, c.deliveryIn m = some d → d.before.listeners = c.listeners ∧
      d.before.around.heard = c.around.heard ∧ d.after = c.after m) ∧
    (∀ m, c.arrivalsIn m ≠ [] → c.deliveryIn m = none ∧ (c.after m).listeners = c.listeners ∧
      (c.after m).around.heard = c.around.heard) ∧
    ∀ ms : List Move, c.backlog.length ≤ works ms →
      c.queued <+: (c.deliveriesInAll ms).map Delivery.notice := by
  have hattentive := attentive_of_run h
  refine ⟨run_conserves h, fun d hd => ?_, fun m d hd => ?_, fun m => hattentive.arrival,
    hattentive.delivers (List.prefix_refl _)⟩
  · obtain ⟨called, rest, hover⟩ := handsOver_of_run h hd
    exact ⟨called, rest, hover, hover.heard⟩
  · cases m with
    | work =>
      obtain ⟨⟨n, d'⟩, hnext, rfl⟩ := Option.map_eq_some_iff.mp hd
      obtain ⟨hlisteners, hheard, -⟩ := hattentive.after_work hnext
      exact ⟨hlisteners, hheard, rfl⟩
    | _ => cases hd

/-- The first of two listeners adds one for another event and raises; that event is heard of by both its
listeners then, and a third notification waits. A message whose name is no text is passed over. -/
theorem delivered_past_raising_listener :
    let reaction (name : String) (_ : List Argument) (_ : Listeners)
        (_ : List (String × List Argument)) : Reaction :=
      if name = "first" then .andThen (.add "tock" "new") (.raise (.runtime "no")) else .nothing
    let start : Client := ⟨.empty, { Station.new
      (.session (.new "ws://host" false (.int 30) .delivered)) true with reaction }⟩
    let moves : List Move := [.operate (.add "tick" (some "first")),
      .operate (.add "tick" (some "late")), .operate (.add "tock" (some "old")),
      .work, .work, .work, .work,
      .session (.arrive 0 (.text "\x7b\"name\": \"tick\", \"data\": 1\x7d")) nofun,
      .session (.arrive 0 (.text "\x7b\"name\": \"tock\", \"data\": 2\x7d")) nofun, .work,
      .notify [(.str "name", .int 7)], .notify [(.str "name", .str "tick")],
      .work, .work, .work, .work]
    let c := start.afterAll moves
    let delivered := start.deliveriesInAll moves
    ∃ arrived, Run arrived delivered c ∧ arrived = delivered.map Delivery.notice ++ c.queued ∧
      delivered.map (fun d => d.notice.event) = ["tick", "tock"] ∧
      c.queued.map Notice.event = ["tick"] ∧
      c.around.heard.map Prod.fst = ["first", "old", "new"] := by
  intro reaction start moves c delivered
  have hstart : Run [] [] start := Run.session "ws://host" false (.int 30) reaction
  obtain ⟨arrived, hrun⟩ := hstart.moves moves
  rw [List.nil_append, List.nil_append] at hrun
  have hstate : delivered.map (fun d => d.notice.event) = ["tick", "tock"] ∧
      c.queued.map Notice.event = ["tick"] ∧
      c.around.heard.map Prod.fst = ["first", "old", "new"] := by
    simp only [delivered, c, moves, start, reaction]
    decide +kernel
  exact ⟨arrived, hrun, (notifications_delivered_once hrun).1, hstate⟩

end Client

end Farcall
