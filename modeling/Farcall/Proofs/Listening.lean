import Farcall.Proofs.Notifications
import Farcall.Proofs.Session.Sending
import Farcall.Proofs.Session.Wiring

/-!
# Listening

The first listener of an event subscribes to it over the session, and the loss of the last one ends
the subscription. So as long as an event has listeners, the last call about it is one that subscribes,
and if its message was sent, no other message about the event was sent after it. But nobody subscribes
again when that call has failed, or when its connection is lost and another one is opened.
-/

namespace Farcall

def IsMessage (method event text : String) : Prop :=
  ∃ id, Json.write Json.spaced ((Request.about method event).message id) = .ok text

def Says (event text : String) : Prop :=
  IsMessage Station.subscribe event text ∨ IsMessage Station.unsubscribe event text

namespace Request

/-- Whether the message of a call subscribes to an event or ends the subscription. -/
def Tells (event : String) (r : Request) : Prop :=
  ∃ id text, Json.write Json.spaced (r.message id) = .ok text ∧ Says event text

theorem not_tells_about {event other : String} (h : other ≠ event) (method : String) :
    ¬ (about method other).Tells event := by
  rintro ⟨id, text, htext, ⟨_, hsays⟩ | ⟨_, hsays⟩⟩
  · exact h (about_message_inj htext hsays).2
  · exact h (about_message_inj htext hsays).2

end Request

open Request (about)

-- ---------------------------------------------------------------------------
-- Calls about an event
-- ---------------------------------------------------------------------------

/-- If an event has listeners, the last one of some calls that tells about it subscribes to it. -/
structure Subscribes (event : String) (rs : List Request) (t : Listeners) : Prop where
  noneEmpty : t.NoneEmpty
  last : t.of event ≠ [] → ∃ before after,
    rs = before ++ about Station.subscribe event :: after ∧ ∀ r ∈ after, ¬ r.Tells event

namespace Subscribes

variable {event other listener : String} {rs : List Request} {r : Request} {t t' : Listeners}

theorem empty : Subscribes event [] .empty :=
  ⟨Listeners.noneEmpty_empty, fun h => (h rfl).elim⟩

theorem congr (h : Subscribes event rs t) (hnone : t'.NoneEmpty)
    (hof : t'.of event ≠ [] → t.of event ≠ []) : Subscribes event rs t' :=
  ⟨hnone, fun hevent => h.last (hof hevent)⟩

theorem append (h : Subscribes event rs t) (hr : ¬ r.Tells event) :
    Subscribes event (rs ++ [r]) t where
  noneEmpty := h.noneEmpty
  last hof := by
    obtain ⟨before, after, rfl, hafter⟩ := h.last hof
    refine ⟨before, after ++ [r], by simp, fun x hx => ?_⟩
    rcases List.mem_append.mp hx with hx | hx
    · exact hafter x hx
    · exact List.mem_singleton.mp hx ▸ hr

theorem first (h : Subscribes event rs t) (other listener : String) :
    Subscribes event (rs ++ [about Station.subscribe other]) (t.insert other listener) := by
  have hnone := h.noneEmpty.insert other listener
  by_cases heq : other = event
  · exact ⟨hnone, fun _ => ⟨rs, [], by rw [heq], fun _ hr => (List.not_mem_nil hr).elim⟩⟩
  · refine (h.append (Request.not_tells_about heq _)).congr hnone fun hof => ?_
    rwa [Listeners.of_insert h.noneEmpty, if_neg (Ne.symm heq)] at hof

theorem more (h : Subscribes event rs t) (hof : t.of other ≠ []) (listener : String) :
    Subscribes event rs (t.insert other listener) := by
  refine h.congr (h.noneEmpty.insert other listener) fun hevent => ?_
  rw [Listeners.of_insert h.noneEmpty] at hevent
  split at hevent
  · rename_i heq
    exact heq ▸ hof
  · exact hevent

theorem fewer (h : Subscribes event rs t) (hin : listener ∈ t.of other) :
    Subscribes event rs (t.remove other listener) := by
  refine h.congr (h.noneEmpty.remove other listener) fun hevent => ?_
  rw [Listeners.of_remove hin] at hevent
  split at hevent
  · rename_i heq
    exact heq ▸ List.ne_nil_of_mem hin
  · exact hevent

theorem last_gone (h : Subscribes event rs t) (other : String) :
    Subscribes event (rs ++ [about Station.unsubscribe other]) (t.erase other) := by
  have hnone := h.noneEmpty.erase other
  by_cases heq : other = event
  · refine ⟨hnone, fun hof => ?_⟩
    rw [Listeners.of_erase, if_pos heq.symm] at hof
    exact (hof rfl).elim
  · refine (h.append (Request.not_tells_about heq _)).congr hnone fun hof => ?_
    rwa [Listeners.of_erase, if_neg (Ne.symm heq)] at hof

end Subscribes

-- ---------------------------------------------------------------------------
-- Listeners and callers
-- ---------------------------------------------------------------------------

/-- A session that has been looked at and whose calls tell who listens to an event. -/
structure Session.Tracked (event : String) (past : List Trace) (t : Listeners) (s : Session) :
    Prop where
  history : History past s
  subscribes : Subscribes event (s.calls.map Call.request) t
  looked : s.traces = []
  notices : s.notices = .delivered

theorem Session.requests_begin (s : Session) (r : Request) (callback : Option Value) :
    (s.begin r callback).calls.map Call.request = s.calls.map Call.request ++ [r] := by
  simp [Session.begin, Session.enqueue, Call.made]

theorem Session.Tracked.begin {s : Session} (h : s.Tracked event past t) (r : Request)
    (callback : Option Value)
    (hsubscribes : Subscribes event (s.calls.map Call.request ++ [r]) t') :
    (s.begin r callback).Tracked event past t' where
  history := List.append_nil past ▸ h.history.move (.begin r callback)
  subscribes := (s.requests_begin r callback).symm ▸ hsubscribes
  looked := h.looked
  notices := h.notices

namespace Client

/-- A client on a loop over a session whose calls tell who listens to an event, with the frames that
were sent. -/
structure Tracks (event : String) (past : List Trace) (frames : List (Nat × String)) (c : Client) :
    Prop where
  hasLoop : c.around.hasLoop = true
  session : ∃ s, c.around.line = .session s ∧ s.Tracked event past c.listeners
  frames : c.around.traces.filterMap Trace.frame? = frames

variable {event : String} {past : List Trace} {frames : List (Nat × String)} {c : Client}
  {s t : Session}

theorem callAbout_run (method other : String) {st : Station} (hline : st.line = .session s)
    (hloop : st.hasLoop = true) : Station.callAbout method other st =
      (.ok (), { st with line := .session (s.begin (about method other) none) }) := by
  obtain ⟨line, hasLoop, heard, log, traces, reaction⟩ := st
  subst hline hloop
  rfl

theorem stable_tracks (event : String) (past : List Trace) (frames : List (Nat × String)) :
    Hub.Stable Station.surroundings (Tracks event past frames) where
  first c other h hof := by
    obtain ⟨s, hline, hs⟩ := h.session
    simp only [Station.surroundings, callAbout_run Station.subscribe other hline h.hasLoop]
    exact fun listener =>
      ⟨h.hasLoop, ⟨_, rfl, hs.begin _ none (hs.subscribes.first other listener)⟩, h.frames⟩
  more c other listener h hof := by
    obtain ⟨s, hline, hs⟩ := h.session
    exact ⟨h.hasLoop, ⟨s, hline, { hs with subscribes := hs.subscribes.more hof listener }⟩,
      h.frames⟩
  fewer c other listener h hin _ := by
    obtain ⟨s, hline, hs⟩ := h.session
    exact ⟨h.hasLoop, ⟨s, hline, { hs with subscribes := hs.subscribes.fewer hin }⟩, h.frames⟩
  last c other h := by
    obtain ⟨s, hline, hs⟩ := h.session
    simp only [Station.surroundings, callAbout_run Station.unsubscribe other hline h.hasLoop]
    exact ⟨h.hasLoop, ⟨_, rfl, hs.begin _ none (hs.subscribes.last_gone other)⟩, h.frames⟩

theorem tracks_heard (c : Client) (name : String) (args : List Argument)
    (h : Tracks event past frames c) :
    Tracks event past frames ⟨c.listeners, Station.surroundings.heard name args c.around⟩ :=
  ⟨h.hasLoop, h.session, h.frames⟩

theorem Tracks.log (h : Tracks event past frames c) (text : String) :
    Tracks event past frames (c.update (·.logEntry text)) :=
  ⟨h.hasLoop, h.session, h.frames⟩

theorem Tracks.deliver (h : Tracks event past frames c) (name : String) (data : Value) :
    Tracks event past frames (c.deliver name data) := by
  have hemit := (stable_tracks event past frames).emit tracks_heard name [.value data] c h
  unfold Client.deliver
  simp only [ExceptT.run]
  rcases hrun : Hub.emit Station.surroundings name [.value data] c with ⟨_ | _, d⟩ <;>
    rw [hrun] at hemit
  · exact Tracks.log hemit _
  · exact hemit

theorem Tracks.report (h : Tracks event past frames c) (method : String) (callback : Value)
    (o : Outcome) : Tracks event past frames (c.report method callback o) := by
  cases callback with
  | function name =>
    have hcall := (stable_tracks event past frames).call tracks_heard name (arguments method o) c h
    simp only [Client.report, ExceptT.run]
    rcases hrun : Hub.call Station.surroundings name (arguments method o) c with ⟨_ | _, d⟩ <;>
      rw [hrun] at hcall
    · exact Tracks.log hcall _
    · exact hcall
  | _ => exact h.log _

/-- What a session has done is followed; frames that it has sent are remembered. -/
theorem Tracks.follow (h : Tracks event past frames c) (x : Trace) :
    Tracks event past (frames ++ [x].filterMap Trace.frame?) (c.follow x) := by
  have hkept : Tracks event past (frames ++ [x].filterMap Trace.frame?)
      (c.update fun st => { st with traces := st.traces ++ [x] }) := by
    refine ⟨h.hasLoop, h.session, ?_⟩
    rw [← h.frames, ← List.filterMap_append]
    rfl
  have htold {d : Client} (hd : Tracks event past frames d) : Tracks event past (frames ++ []) d := by
    rwa [List.append_nil]
  cases x with
  | delivered name data => exact htold (h.deliver name data)
  | reported method callback o => exact htold (h.report method callback o)
  | logged text => exact htold (h.log text)
  | _ => exact hkept

theorem Tracks.followAll (h : Tracks event past frames c) (ts : List Trace) :
    Tracks event past (frames ++ ts.filterMap Trace.frame?) (ts.foldl Client.follow c) := by
  induction ts generalizing frames c with
  | nil => simpa using h
  | cons x ts ih =>
    have hrest := ih (h.follow x)
    rwa [List.append_assoc, ← List.filterMap_append] at hrest

-- ---------------------------------------------------------------------------
-- Moves
-- ---------------------------------------------------------------------------

/-- A client on a loop over a session that remembers all frames and whose calls tell who listens to an
event. -/
def Tracked (event : String) (c : Client) : Prop :=
  ∃ past, Tracks event past (past.filterMap Trace.frame?) c

/-- When a session has gone on and all that it did is followed, its calls still tell who listens. -/
theorem tracked_drain (hline : c.around.line = .session t) (hloop : c.around.hasLoop = true)
    (hhistory : Session.History past t)
    (hframes : c.around.traces.filterMap Trace.frame? = past.filterMap Trace.frame?)
    (hsubscribes : Subscribes event (t.calls.map Call.request) c.listeners)
    (hnotices : t.notices = .delivered) : Tracked event c.drain := by
  have hlooked : Tracks event (past ++ t.traces) (past.filterMap Trace.frame?)
      (c.update fun st => { st with line := .session (t.after .observe) }) :=
    ⟨hloop, ⟨_, rfl, hhistory.move .observe, hsubscribes, rfl, hnotices⟩, hframes⟩
  have hall := hlooked.followAll t.traces
  rw [← List.filterMap_append] at hall
  rw [drain_eq hline]
  exact ⟨_, hall⟩

/-- Whether in a move no call is made from outside that tells about an event. -/
def Move.Spares (event : String) : Move → Prop
  | .call r _ => ¬ r.Tells event
  | .session (.begin r _) _ => ¬ r.Tells event
  | _ => True

theorem Tracked.operate (h : Tracked event c) (op : Hub.Operation) :
    Tracked event (c.after (.operate op)) := by
  obtain ⟨past, hpast⟩ := h
  exact ⟨past, (stable_tracks event past _).after tracks_heard hpast op⟩

theorem Tracked.call (h : Tracked event c) (r : Request) (callback : Option Value)
    (hr : ¬ r.Tells event) : Tracked event (c.after (.call r callback)) := by
  obtain ⟨past, hloop, ⟨s, hline, hs⟩, hframes⟩ := h
  obtain ⟨listeners, ⟨line, hasLoop, heard, log, traces, reaction⟩⟩ := c
  subst hline hloop
  exact ⟨past, rfl, ⟨_, rfl, hs.begin r callback (hs.subscribes.append hr)⟩, hframes⟩

theorem Tracked.notify (h : Tracked event c) (message : List (Value × Value)) :
    Tracked event (c.after (.notify message)) := by
  obtain ⟨past, hloop, ⟨s, hline, hs⟩, hframes⟩ := h
  unfold Client.after Client.notify
  simp only
  split
  · rename_i name _
    have hhistory : Session.History past (s.enqueue (.deliver name (Value.getD message "data"))) :=
      List.append_nil past ▸ hs.history.move (.deliver name _)
    simp only [hloop, Bool.not_true, Bool.false_eq_true, if_false, Client.update, hline]
    exact ⟨past, rfl, ⟨_, rfl, hhistory, hs.subscribes, hs.looked, hs.notices⟩, hframes⟩
  · exact ⟨past, hloop, ⟨s, hline, hs⟩, hframes⟩

theorem Tracked.session (h : Tracked event c) (m : Session.Move) (hm : m ≠ .work)
    (hspares : (Move.session m hm).Spares event) : Tracked event (c.after (.session m hm)) := by
  obtain ⟨past, hloop, ⟨s, hline, hs⟩, hframes⟩ := h
  have hhistory : Session.History past (s.after m) := by
    have hmove := hs.history.move m
    have hnone : s.shownIn m = [] := by
      cases m with
      | observe => exact hs.looked
      | _ => rfl
    rwa [hnone, List.append_nil] at hmove
  simp only [Client.after, updateSession_eq hline]
  -- nothing that happens to a session makes calls, unless a call is what happens
  by_cases hcalls : ∀ r callback, m ≠ .begin r callback
  · have hadds := Session.adds_after hs.looked hm hcalls
    exact tracked_drain rfl hloop hhistory hframes (hadds.requests ▸ hs.subscribes)
      (hadds.notices.trans hs.notices)
  · obtain ⟨r, callback, rfl⟩ : ∃ r callback, m = .begin r callback := by simpa using hcalls
    exact tracked_drain rfl hloop hhistory hframes
      ((s.requests_begin r callback).symm ▸ hs.subscribes.append hspares) hs.notices

theorem Tracked.refuse (h : Tracked event c) (text : Option String) :
    Tracked event (c.after (.refuse text)) := by
  obtain ⟨past, hloop, ⟨s, hline, hs⟩, hframes⟩ := h
  have hsame : c.after (.refuse text) = c := by
    simp only [Client.after, Client.update, hline]
  rw [hsame]
  exact ⟨past, hloop, ⟨s, hline, hs⟩, hframes⟩

theorem Tracked.work (h : Tracked event c) : Tracked event (c.after .work) := by
  obtain ⟨past, hloop, ⟨s, hline, hs⟩, hframes⟩ := h
  have hhistory : Session.History past (s.after .work) := List.append_nil past ▸ hs.history.move .work
  rw [after_work_session hline]
  cases hnext : s.next with
  | none =>
    have hidle : s.after .work = s.idle := by
      simp only [Session.after, Session.step, hnext, Option.map_none, Option.getD_none]
    rw [hidle] at hhistory
    exact ⟨past, hloop, ⟨_, rfl, hhistory, hs.subscribes, hs.looked, hs.notices⟩, hframes⟩
  | some next =>
    obtain ⟨j, t⟩ := next
    have hperform : s.after .work = t.perform j := by
      simp only [Session.after, Session.step, hnext, Option.map_some, Option.getD_some]
    rw [hperform] at hhistory
    have hsame : t.calls = s.calls ∧ t.notices = s.notices := by
      obtain ⟨_, _, _, rfl⟩ := Session.next_eq hnext
      exact ⟨rfl, rfl⟩
    have hkept : (t.perform j).calls.map Call.request = s.calls.map Call.request ∧
        (t.perform j).notices = .delivered := by
      rw [← hs.notices, ← hsame.1, ← hsame.2]
      -- those who are told may make calls, but only when the client follows what was done
      cases hj : j.isTelling with
      | true =>
        obtain ⟨-, hnotices, hcalls, -⟩ := perform_telling t hj
        exact ⟨congrArg (List.map Call.request) hcalls, hnotices⟩
      | false =>
        have hadds := Session.adds_perform (hsame.2.trans hs.notices) hj
        exact ⟨hadds.requests, hadds.notices⟩
    exact tracked_drain rfl hloop hhistory hframes (hkept.1 ▸ hs.subscribes) hkept.2

theorem Tracked.after (h : Tracked event c) (m : Move) (hm : m.Spares event) :
    Tracked event (c.after m) := by
  cases m with
  | operate op => exact h.operate op
  | call r callback => exact h.call r callback hm
  | notify message => exact h.notify message
  | session m outside => exact h.session m outside hm
  | refuse text => exact h.refuse text
  | work => exact h.work

/-- A run of a new client on a loop over a session, in which nobody but the client itself makes calls
that tell about an event. Its listeners may do anything. -/
inductive Use (event : String) : Client → Prop
  | new (address : String) (customEncryption : Bool) (timeout : Value)
    (reaction : String → List Argument → Listeners → List (String × List Argument) → Reaction) :
    Use event ⟨.empty, { Station.new
      (.session (Session.new address customEncryption timeout .delivered)) true with reaction }⟩
  | move {c : Client} (h : Use event c) (m : Move) (hm : m.Spares event) : Use event (c.after m)

theorem Use.moves (h : Use event c) (ms : List Move) (hms : ∀ m ∈ ms, m.Spares event) :
    Use event (c.afterAll ms) := by
  induction ms generalizing c with
  | nil => exact h
  | cons m ms ih =>
    obtain ⟨hm, hrest⟩ := List.forall_mem_cons.mp hms
    exact ih (h.move m hm) hrest

theorem tracked_of_use (h : Use event c) : Tracked event c := by
  induction h with
  | new address customEncryption timeout reaction =>
    exact ⟨[], rfl, ⟨_, rfl, .new .., .empty, rfl, rfl⟩, rfl⟩
  | move _ m hm ih => exact ih.after m hm

end Client

-- ---------------------------------------------------------------------------
-- Subscriptions
-- ---------------------------------------------------------------------------

/-- The last message over a connection that subscribes to an event or ends the subscription is one that
subscribes. -/
def SubscribedOver (event : String) (l : Nat) (frames : List (Nat × String)) : Prop :=
  ∃ before text after, frames = before ++ (l, text) :: after ∧
    IsMessage Station.subscribe event text ∧ ∀ f ∈ after, f.1 = l → ¬ Says event f.2

namespace Session

variable {event : String} {k : Nat} {s : Session} {f : Nat × String}
  {before after frames : List (Nat × String)}

/-- The last call that tells about an event is one that subscribes to it. -/
structure LastSubscribes (s : Session) (event : String) (k : Nat) : Prop where
  made : k < s.calls.length
  subscribes : (s.call k).request = about Station.subscribe event
  last : ∀ j, k < j → j < s.calls.length → ¬ (s.call j).request.Tells event

theorem exists_lastSubscribes {t : Listeners}
    (h : Subscribes event (s.calls.map Call.request) t) (hof : t.of event ≠ []) :
    ∃ k, s.LastSubscribes event k := by
  obtain ⟨before, after, hcalls, hafter⟩ := h.last hof
  have hlength : s.calls.length = before.length + 1 + after.length := by
    rw [← List.length_map Call.request, hcalls, List.length_append, List.length_cons]
    omega
  have hrequest {j : Nat} (hj : j < s.calls.length) :
      (before ++ about Station.subscribe event :: after)[j]? = some (s.call j).request := by
    rw [← hcalls]
    simp [call, hj]
  refine ⟨before.length, by omega, ?_, fun j hj hmade => hafter _ ?_⟩
  · have hk := hrequest (j := before.length) (by omega)
    rw [List.getElem?_append_right (Nat.le_refl _), Nat.sub_self, List.getElem?_cons_zero] at hk
    exact (Option.some.inj hk).symm
  · have hlater := hrequest hmade
    rw [List.getElem?_append_right (Nat.le_of_lt hj), List.getElem?_cons,
      if_neg (by omega)] at hlater
    exact List.mem_of_getElem? hlater

/-- If the message of the last call that tells about an event was sent and subscribes to it, no other
message about the event was sent after it. -/
theorem LastSubscribes.subscribedOver (h : s.LastSubscribes event k)
    (hk : (s.call k).frame? = some f) (hsplit : frames = before ++ f :: after)
    (hafter : ∀ g ∈ after, ∃ j, k < j ∧ (s.call j).frame? = some g) :
    SubscribedOver event f.1 frames := by
  obtain ⟨-, htext⟩ := Call.frame?_eq_some hk
  rw [h.subscribes] at htext
  refine ⟨before, f.2, after, hsplit, ⟨_, htext⟩, fun g hg _ hsays => ?_⟩
  obtain ⟨j, hj, hframe⟩ := hafter g hg
  obtain ⟨hlink, hlater⟩ := Call.frame?_eq_some hframe
  -- a call that was never made has no link
  have hmade : j < s.calls.length := by
    by_contra hnot
    rw [call_of_length_le (Nat.le_of_not_lt hnot)] at hlink
    cases hlink
  exact h.last j hj hmade ⟨_, _, hlater, hsays⟩

end Session

namespace Client

variable {event : String} {c : Client} {s : Session}

def sent (c : Client) : List (Nat × String) := c.around.traces.filterMap Trace.frame?

/-- In every run in which nobody but the client itself makes calls that tell about an event: whenever
the event has listeners, the last call that tells about it subscribes to it. If that call has succeeded,
its message was sent. While a connection is open, the last message over it which tells about the event
is one that subscribes, unless the message of that call was not sent over this connection; if it was
sent at all, it was sent over an earlier connection, which has ended. -/
theorem listened_events_subscribed (h : Use event c) (hline : c.around.line = .session s)
    (hlisteners : c.listeners.of event ≠ []) : ∃ k, s.LastSubscribes event k ∧
      ((s.call k).hasSucceeded = true → ∃ f ∈ c.sent, (s.call k).frame? = some f) ∧
      ∀ l, s.socket = some l → SubscribedOver event l c.sent ∨
        ∀ f ∈ c.sent, (s.call k).frame? = some f →
          f.1 < l ∧ (s.closed = false → s.hasEnded f.1 = true) := by
  obtain ⟨past, -, ⟨s', hline', hs⟩, hframes⟩ := tracked_of_use h
  obtain rfl : s' = s := Line.session.inj (hline'.symm.trans hline)
  have hsent : c.sent = (past ++ s'.traces).filterMap Trace.frame? := by
    rw [hs.looked, List.append_nil]
    exact hframes
  obtain ⟨k, hlast⟩ := Session.exists_lastSubscribes hs.subscribes hlisteners
  refine ⟨k, hlast, fun hk => ?_, fun l hl => ?_⟩
  · have hsocket : (s'.call k).request.transport = .socket := by
      rw [hlast.subscribes]
      rfl
    exact hsent ▸ hs.history.sent_of_hasSucceeded hsocket hk
  · by_cases hover : ∃ f ∈ c.sent, (s'.call k).frame? = some f ∧ f.1 = l
    · obtain ⟨f, hf, hframe, rfl⟩ := hover
      rw [hsent] at hf ⊢
      obtain ⟨before, after, hsplit, hafter⟩ := hs.history.sent_before hframe hf
      exact .inl (hlast.subscribedOver hframe hsplit hafter)
    · refine .inr fun f hf hframe => ?_
      exact hs.history.link_earlier (Call.frame?_eq_some hframe).1 hl fun hfl =>
        hover ⟨f, hf, hframe, hfl⟩

/-- A client listens for an event, does not any more, and listens again; another call goes out as
well. -/
theorem subscribed_when_listening_again :
    let reaction (_ : String) (_ : List Argument) (_ : Listeners)
        (_ : List (String × List Argument)) : Reaction := .nothing
    let start : Client := ⟨.empty, { Station.new
      (.session (.new "ws://host" false (.int 30) .delivered)) true with reaction }⟩
    let works : List Move := List.replicate 6 .work
    let moves : List Move := .operate (.add "tick" (some "first")) :: works ++
      .operate (.remove "tick" (some "first")) :: works ++
      .operate (.add "tick" (some "second")) :: works ++
      .call ⟨"ping", .list [], false, .socket⟩ none :: works
    let c := start.afterAll moves
    Use "tick" c ∧ c.listeners.of "tick" = ["second"] ∧ c.sent.length = 4 ∧
      SubscribedOver "tick" 0 c.sent := by
  intro reaction start works moves c
  have hping : ¬ (⟨"ping", .list [], false, .socket⟩ : Request).Tells "tick" := by
    rintro ⟨id, text, htext, ⟨_, hsays⟩ | ⟨_, hsays⟩⟩
    · exact absurd (Request.message_inj htext hsays).1 (by decide)
    · exact absurd (Request.message_inj htext hsays).1 (by decide)
  have hspares : ∀ m ∈ moves, m.Spares "tick" := by
    simp [moves, works, Move.Spares, hping]
  have huse : Use "tick" c := (Use.new "ws://host" false (.int 30) reaction).moves moves hspares
  have hstate : c.listeners.of "tick" = ["second"] ∧ c.sent.length = 4 ∧
      (c.session?.any fun s => decide (s.socket = some 0 ∧
        ∀ k < s.calls.length, (s.call k).hasSucceeded = true)) = true := by
    simp only [c, moves, works, start, reaction]
    decide +kernel
  obtain ⟨hlisteners, hlength, hsession⟩ := hstate
  obtain ⟨s, hs, hsucceeded⟩ := (Option.any_eq_true _ _).mp hsession
  obtain ⟨hsocket, hsucceeded⟩ := of_decide_eq_true hsucceeded
  obtain ⟨k, hlast, hsent, hsubscribed⟩ := listened_events_subscribed huse (line_of_session? hs)
    (by simp [hlisteners])
  refine ⟨huse, hlisteners, hlength, (hsubscribed 0 hsocket).resolve_right fun hnone => ?_⟩
  obtain ⟨f, hf, hframe⟩ := hsent (hsucceeded k hlast.made)
  exact Nat.not_lt_zero f.1 (hnone f hf hframe).1

/-- An event is not subscribed to over a connection if the last frame of all was sent over it and either
ends the subscription or is the only one over that connection and about something else. -/
theorem not_subscribedOver {frames : List (Nat × String)}
    (hlast : frames.getLast? = some (l, text)) (hmessage : ¬ IsMessage Station.subscribe event text)
    (hbefore : Says event text ∨ ∀ f ∈ frames.dropLast, f.1 ≠ l) :
    ¬ SubscribedOver event l frames := by
  rintro ⟨earlier, subscribing, after, rfl, hsubscribes, hafter⟩
  rw [List.getLast?_append_cons] at hlast
  by_cases hnone : after = []
  · subst hnone
    cases hlast
    exact hmessage hsubscribes
  · rw [List.getLast?_cons_of_ne_nil hnone] at hlast
    rcases hbefore with hsays | hbefore
    · exact hafter (l, text) (List.mem_of_getLast? hlast) rfl hsays
    · refine hbefore (l, subscribing) ?_ rfl
      rw [List.dropLast_append_of_ne_nil (List.cons_ne_nil _ _), List.dropLast_cons_of_ne_nil hnone]
      exact List.mem_append_right _ List.mem_cons_self

/-- Nobody subscribes again for a listener, and it may be left without a subscription over the open
connection while no call is under way: if the connection over which its event was subscribed to is lost
and another call opens a new one; if the call that subscribes could not connect; and if somebody else
ends the subscription. -/
theorem listened_without_subscription :
    let reaction (_ : String) (_ : List Argument) (_ : Listeners)
        (_ : List (String × List Argument)) : Reaction := .nothing
    let start : Client := ⟨.empty, { Station.new
      (.session (.new "ws://host" false (.int 30) .delivered)) true with reaction }⟩
    let works : List Move := List.replicate 6 .work
    let listen : Move := .operate (.add "tick" (some "listener"))
    let ping : Move := .call ⟨"ping", .list [], false, .socket⟩ none
    let lost : List Move :=
      listen :: works ++ .session (.drop 0 none) nofun :: works ++ ping :: works
    let refused : List Move := .session (.network { Network.reliable with
        attempts := [.failed (.webSocket "refused")] }) nofun :: listen :: works ++ ping :: works
    let ended : List Move :=
      listen :: works ++ .call (about Station.unsubscribe "tick") none :: works
    ∀ moves ∈ [lost, refused, ended], let c := start.afterAll moves
      ∃ s l, c.around.line = .session s ∧ s.socket = some l ∧
        (∀ k < s.calls.length, (s.call k).outcome?.isSome) ∧ c.listeners.of "tick" ≠ [] ∧
        ¬ SubscribedOver "tick" l c.sent := by
  intro reaction start works listen ping lost refused ended
  have hends {c : Client} {l : Nat} (hstate : c.listeners.of "tick" = ["listener"] ∧
      (c.session?.any fun s => decide (s.socket = some l ∧
        ∀ k < s.calls.length, (s.call k).outcome?.isSome)) = true)
      (hsent : ¬ SubscribedOver "tick" l c.sent) : ∃ s l, c.around.line = .session s ∧
        s.socket = some l ∧ (∀ k < s.calls.length, (s.call k).outcome?.isSome) ∧
        c.listeners.of "tick" ≠ [] ∧ ¬ SubscribedOver "tick" l c.sent := by
    obtain ⟨s, hs, hrest⟩ := (Option.any_eq_true _ _).mp hstate.2
    obtain ⟨hsocket, hended⟩ := of_decide_eq_true hrest
    exact ⟨s, l, line_of_session? hs, hsocket, hended, by simp [hstate.1], hsent⟩
  have hother {text : String} {r : Request} (h : Json.write Json.spaced (r.message 2) = .ok text)
      (hne : r.method ≠ Station.subscribe) : ¬ IsMessage Station.subscribe "tick" text :=
    fun ⟨_, htext⟩ => hne (Request.message_inj h htext).1
  have hping : ¬ IsMessage Station.subscribe "tick"
      "\x7b\"jsonrpc\": \"2.0\", \"method\": \"ping\", \"params\": [], \"id\": 2\x7d" :=
    hother (r := ⟨"ping", .list [], false, .socket⟩) rfl (by decide)
  have hoff : Json.write Json.spaced ((about Station.unsubscribe "tick").message 2) = .ok
      "\x7b\"jsonrpc\": \"2.0\", \"method\": \"rpc.off\", \"params\": [\"tick\"], \"id\": 2\x7d" :=
    rfl
  refine List.forall_mem_cons.mpr ⟨?lost, List.forall_mem_cons.mpr ⟨?refused,
    List.forall_mem_singleton.mpr ?ended⟩⟩
  case lost =>
    refine hends (l := 1) ?_ (not_subscribedOver ?_ hping (.inr ?_)) <;>
    · simp only [lost, works, listen, ping, start, reaction]
      decide +kernel
  case refused =>
    refine hends (l := 0) ?_ (not_subscribedOver ?_ hping (.inr ?_)) <;>
    · simp only [refused, works, listen, ping, start, reaction]
      decide +kernel
  case ended =>
    refine hends (l := 0) ?_
      (not_subscribedOver ?_ (hother hoff (by decide)) (.inl (.inr ⟨2, hoff⟩))) <;>
    · simp only [ended, works, listen, start, reaction]
      decide +kernel

end Client

end Farcall
