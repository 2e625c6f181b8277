import Farcall.Proofs.Hubs
import Farcall.Proofs.Session.Reports
import Farcall.Proxy.Station

/-!
# Callers

What a session has done is followed: callers are told how their calls have ended, and listeners get
what they listen to. They may make new calls while they are called, and they may raise. Neither gets in
the way: a session is left with some more calls, and whatever else it has done is followed as well.
-/

namespace Farcall

/-- What is heard when something that has happened is followed. A caller that can be called hears once
how its call has ended: no error and the result, or the error and no result. That it was cancelled is
an error of the transport. -/
def Trace.Heard : Trace → List (String × List Argument) → Prop
  | .reported _ (.function name) (.value v), heard => heard = [(name, [.value .null, .value v])]
  | .reported _ (.function name) (.failed e), heard => heard = [(name, [.error e, .value .null])]
  | .reported method (.function name) .cancelled, heard =>
    heard = [(name, [.error (.transport (.cancelled method)), .value .null])]
  | .delivered _ _, _ => True
  | _, heard => heard = []

theorem Trace.exists_heard (h : List.Forall₂ Trace.Heard ts heard) (ht : t ∈ ts) :
    ∃ x ∈ heard, t.Heard x := by
  induction h with
  | nil => cases ht
  | cons hx _ ih =>
    rcases List.mem_cons.mp ht with rfl | ht
    · exact ⟨_, List.mem_cons_self, hx⟩
    · obtain ⟨x, hmem, hheard⟩ := ih ht
      exact ⟨x, List.mem_cons_of_mem _ hmem, hheard⟩

/-- Whether a caller is told of an integer, or else that its call was cancelled. -/
def Trace.tells (method name : String) (result : Option Int) : Trace → Bool
  | .reported m (.function f) (.value (.int n)) => m == method && f == name && result == some n
  | .reported m (.function f) .cancelled => m == method && f == name && result == none
  | _ => false

theorem Trace.eq_of_tells {t : Trace} (h : t.tells method name result) :
    t = .reported method (.function name) (result.elim .cancelled fun n => .value (.int n)) := by
  unfold tells at h
  split at h
  · simp_all
  · simp_all
  · cases h

-- ---------------------------------------------------------------------------
-- Calls from callers and listeners
-- ---------------------------------------------------------------------------

namespace Session

def beginAll (s : Session) (rs : List Request) : Session :=
  rs.foldl (fun s r => s.begin r none) s

theorem beginAll_append (s : Session) (rs more : List Request) :
    s.beginAll (rs ++ more) = (s.beginAll rs).beginAll more := List.foldl_append

theorem call_beginAll {s : Session} (hk : k < s.calls.length) (rs : List Request) :
    (s.beginAll rs).call k = s.call k := by
  induction rs generalizing s with
  | nil => rfl
  | cons r rs ih =>
    have hlength : k < (s.begin r none).calls.length := by
      simp only [Session.begin, Session.enqueue, List.length_append]
      omega
    exact (ih hlength).trans (call_begin_of_lt hk)

theorem History.beginAll {s : Session} (h : History past s) (rs : List Request) :
    History past (s.beginAll rs) := by
  induction rs generalizing s with
  | nil => exact h
  | cons r rs ih =>
    have hbegun := h.move (.begin r none)
    exact ih (List.append_nil past ▸ hbegun)

end Session

namespace Station

variable {heard more : List (String × List Argument)}

/-- Something is heard at a station, and calls may be made; nothing else happens to its line. -/
structure Follows (heard : List (String × List Argument)) (st st' : Station) : Prop where
  hears : st'.heard = st.heard ++ heard
  begins : ∀ s, st.line = .session s → ∃ rs, st'.line = .session (s.beginAll rs)
  records : ∀ x, st.line = .recorder x → ∃ calls, st'.line = .recorder { x with calls := calls }
  hasLoop : st'.hasLoop = st.hasLoop

theorem follows_of_line {st st' : Station} (hline : st'.line = st.line)
    (hheard : st'.heard = st.heard ++ heard) (hloop : st'.hasLoop = st.hasLoop) :
    Follows heard st st' :=
  ⟨hheard, fun _ hs => ⟨[], hline.trans hs⟩, fun x hx => ⟨x.calls, hline.trans hx⟩, hloop⟩

theorem follows_refl (st : Station) : Follows [] st st :=
  follows_of_line rfl (List.append_nil _).symm rfl

theorem Follows.trans {st st' st'' : Station} (h : Follows heard st st')
    (h' : Follows more st' st'') : Follows (heard ++ more) st st'' where
  hears := by rw [h'.hears, h.hears, List.append_assoc]
  begins s hs := by
    obtain ⟨rs, hrs⟩ := h.begins s hs
    obtain ⟨rs', hrs'⟩ := h'.begins _ hrs
    exact ⟨rs ++ rs', by rw [hrs', Session.beginAll_append]⟩
  records x hx := by
    obtain ⟨calls, hcalls⟩ := h.records x hx
    obtain ⟨calls', hcalls'⟩ := h'.records _ hcalls
    exact ⟨calls', hcalls'⟩
  hasLoop := h'.hasLoop.trans h.hasLoop

theorem follows_call (r : Request) (st : Station) : Follows [] st (call r none st).2 := by
  obtain ⟨line, hasLoop, heard, log, traces, reaction⟩ := st
  cases line with
  | recorder x =>
    obtain ⟨refusal, calls, closings, waiting⟩ := x
    cases refusal with
    | some text => exact follows_refl _
    | none =>
      refine ⟨(List.append_nil _).symm, fun s hs => (by cases hs),
        fun y hy => ⟨calls ++ [(r, none)], ?_⟩, rfl⟩
      cases hy
      rfl
  | session x =>
    cases hasLoop with
    | false => exact follows_refl _
    | true =>
      refine ⟨(List.append_nil _).symm, fun s hs => ⟨[r], ?_⟩, fun x hx => (by cases hx), rfl⟩
      cases hs
      rfl

theorem follows_callAbout (method event : String) (st : Station) :
    Follows [] st (callAbout method event st).2 := by
  have hcall := follows_call ⟨method, .list [.str event], false, .socket⟩ st
  rw [callAbout, Action.bind_run]
  rcases hrun : call ⟨method, .list [.str event], false, .socket⟩ none st with ⟨_ | _, st'⟩ <;>
    rwa [hrun] at hcall

end Station

namespace Client

open Station (Follows follows_refl follows_of_line)

/-- Whatever events get and lose listeners, nothing is heard, but calls may be made. -/
theorem stable_follows (st : Station) :
    Hub.Stable Station.surroundings fun c => Follows [] st c.around where
  first c event h _ := by
    have hcall : Follows [] c.around (Station.surroundings.first event c.around).2 :=
      Station.follows_callAbout _ event c.around
    rcases hrun : Station.surroundings.first event c.around with ⟨_ | _, st'⟩ <;> rw [hrun] at hcall
    · exact h.trans hcall
    · exact fun _ => h.trans hcall
  more _ _ _ h _ := h
  fewer _ _ _ h _ _ := h
  last c event h := h.trans (Station.follows_callAbout _ event c.around)

theorem follows_call (name : String) (args : List Argument) (c : Client) :
    Follows [(name, args)] c.around (Hub.call Station.surroundings name args c).2.around := by
  have hheard : Follows [(name, args)] c.around
      (Station.surroundings.heard name args c.around) := follows_of_line rfl rfl rfl
  have hreact := (stable_follows (Station.surroundings.heard name args c.around)).react
    (Station.surroundings.reaction name args c.listeners
      (Station.surroundings.heard name args c.around)) ⟨c.listeners, _⟩ (follows_refl _)
  exact hheard.trans hreact

theorem follows_callEach (args : List Argument) (names : List String) (c : Client) :
    ∃ heard, Follows heard c.around
      (Hub.callEach Station.surroundings args names c).2.around := by
  induction names generalizing c with
  | nil => exact ⟨[], follows_refl c.around⟩
  | cons name rest ih =>
    have hfirst := follows_call name args c
    rw [Hub.callEach, Action.bind_run]
    rcases hrun : Hub.call Station.surroundings name args c with ⟨_ | a, c'⟩ <;>
      rw [hrun] at hfirst
    · exact ⟨_, hfirst⟩
    · obtain ⟨heard, hrest⟩ := ih c'
      exact ⟨_, hfirst.trans hrest⟩

-- ---------------------------------------------------------------------------
-- What is followed
-- ---------------------------------------------------------------------------

theorem follows_log (text : String) (c : Client) :
    Follows [] c.around (c.update (·.logEntry text)).around :=
  follows_of_line rfl (List.append_nil _).symm rfl

theorem follows_emit (event : String) (args : List Argument) (c : Client) :
    ∃ heard, Follows heard c.around (Hub.emit Station.surroundings event args c).2.around := by
  obtain ⟨heard, h⟩ := follows_callEach args (c.listeners.of event) c
  refine ⟨heard, ?_⟩
  rw [Hub.emit, Action.bind_run, Action.get_run]
  simp only [Action.bind_run]
  rcases hrun : Hub.callEach Station.surroundings args (c.listeners.of event) c with ⟨_ | _, c'⟩ <;>
    rwa [hrun] at h

theorem follows_deliver (event : String) (data : Value) (c : Client) :
    ∃ heard, Follows heard c.around (c.deliver event data).around := by
  obtain ⟨heard, h⟩ := follows_emit event [.value data] c
  refine ⟨heard, ?_⟩
  unfold Client.deliver
  simp only [ExceptT.run]
  rcases hrun : Hub.emit Station.surroundings event [.value data] c with ⟨_ | _, c'⟩ <;>
    rw [hrun] at h
  · simpa using h.trans (follows_log _ c')
  · exact h

theorem follows_report (method : String) (callback : Value) (o : Outcome) (c : Client) :
    ∃ heard, (Trace.reported method callback o).Heard heard ∧
      Follows heard c.around (c.report method callback o).around := by
  cases callback with
  | function name =>
    refine ⟨[(name, arguments method o)], by cases o <;> rfl, ?_⟩
    have h := follows_call name (arguments method o) c
    simp only [Client.report, ExceptT.run]
    rcases hrun : Hub.call Station.surroundings name (arguments method o) c with ⟨_ | _, c'⟩ <;>
      rw [hrun] at h
    · simpa using h.trans (follows_log _ c')
    · exact h
  | _ => exact ⟨[], rfl, follows_log _ c⟩

theorem follows_follow (t : Trace) (c : Client) :
    ∃ heard, t.Heard heard ∧ Follows heard c.around (c.follow t).around := by
  have hother {t : Trace} : Follows [] c.around
      (c.update fun s => { s with traces := s.traces ++ [t] }).around :=
    follows_of_line rfl (List.append_nil _).symm rfl
  cases t with
  | delivered event data =>
    obtain ⟨heard, h⟩ := follows_deliver event data c
    exact ⟨heard, trivial, h⟩
  | reported method callback o => exact follows_report method callback o c
  | logged text => exact ⟨[], rfl, follows_log text c⟩
  | _ => exact ⟨[], rfl, hother⟩

theorem follows_all (ts : List Trace) (c : Client) :
    ∃ heard, List.Forall₂ Trace.Heard ts heard ∧
      Follows heard.flatten c.around (ts.foldl Client.follow c).around := by
  induction ts generalizing c with
  | nil => exact ⟨[], .nil, follows_refl c.around⟩
  | cons t ts ih =>
    obtain ⟨first, hfirst, hfollow⟩ := follows_follow t c
    obtain ⟨rest, hrest, hfollows⟩ := ih (c.follow t)
    exact ⟨first :: rest, .cons hfirst hrest, hfollow.trans hfollows⟩

/-- The session is looked at, and then all that it has done is followed. -/
theorem drain_eq {c : Client} (hline : c.around.line = .session s) :
    c.drain = s.traces.foldl follow
      (c.update fun st => { st with line := .session (s.after .observe) }) := by
  have hsession : c.session? = some s := by rw [Client.session?, hline]
  have hlooked : c.updateSession (fun y => { y with traces := [] }) =
      c.update fun st => { st with line := .session (s.after .observe) } := by
    simp only [Client.updateSession, Client.update, hline]
    rfl
  rw [Client.drain, hsession, ← hlooked]

/-- All that a session has done is followed, and the session is left with some more calls. -/
theorem drain_spec {c : Client} (hline : c.around.line = .session s) :
    ∃ rs heard, c.drain.around.line = .session ((s.after .observe).beginAll rs) ∧
      List.Forall₂ Trace.Heard s.traces heard ∧
      c.drain.around.heard = c.around.heard ++ heard.flatten ∧
      c.drain.around.hasLoop = c.around.hasLoop := by
  obtain ⟨heard, htraces, hfollows⟩ := follows_all s.traces
    (c.update fun st => { st with line := .session (s.after .observe) })
  obtain ⟨rs, hrs⟩ := hfollows.begins _ rfl
  rw [drain_eq hline]
  exact ⟨rs, heard, hrs, htraces, hfollows.hears, hfollows.hasLoop⟩

end Client

-- ---------------------------------------------------------------------------
-- Callers
-- ---------------------------------------------------------------------------

namespace Session

/-- Calls that were reported before some moves are not reported in them, and stay as they were
reported. -/
theorem History.reports_once {s : Session} (h : History past s) : ∃ told : List Nat,
    told.Nodup ∧ s.ReportsOf told (past ++ s.traces) ∧ ∀ ms, ∃ more, (told ++ more).Nodup ∧
      (s.afterAll ms).ReportsOf (told ++ more)
        (past ++ s.shownInAll ms ++ (s.afterAll ms).traces) := by
  obtain ⟨told, htold⟩ := h.reported
  obtain ⟨handled, hrun⟩ := h.run
  refine ⟨s.heeded told, htold.nodup.filter _, htold.reportsOf, fun ms => ?_⟩
  obtain ⟨more, hmore⟩ := h.reported_moves htold ms
  have hsame : (s.afterAll ms).heeded told = s.heeded told := by
    refine List.filter_congr fun k hk => ?_
    obtain ⟨o, ho⟩ := Option.isSome_iff_exists.mp (htold.isOver hk)
    rw [(hrun.sameEnd ho ms).report?_eq]
  have hsplit : (s.afterAll ms).heeded (told ++ more) =
      s.heeded told ++ (s.afterAll ms).heeded more := by
    rw [heeded, List.filter_append, ← heeded, hsame, ← heeded]
  exact ⟨(s.afterAll ms).heeded more, hsplit ▸ hmore.nodup.filter _, hsplit ▸ hmore.reportsOf⟩

/-- In every run, the ends of calls that are reported to callers are those of calls that have ended,
each at most once, and as they have ended. From then on nothing that happens changes the end of such a
call or reports it again; and a response that has come, or that nobody waits for any more, stays
whatever comes later. When a client follows what happened, each caller that can be called hears how
its call has ended, by an error or a result; whoever raises, all that happened is followed, and the
calls there are stay as they are. -/
theorem callers_told_once {s : Session} (h : History past s) :
    (∃ told : List Nat, told.Nodup ∧ s.ReportsOf told (past ++ s.traces) ∧
      ∀ ms, ∃ more, (told ++ more).Nodup ∧ (s.afterAll ms).ReportsOf (told ++ more)
        (past ++ s.shownInAll ms ++ (s.afterAll ms).traces)) ∧
    (∀ ms k o, (s.call k).outcome? = some o → ((s.afterAll ms).call k).outcome? = some o) ∧
    (∀ ms k p, (s.call k).response = some p → p.isPending = false →
      ((s.afterAll ms).call k).response = some p) ∧
    (∀ (t : Session) k p, (t.call k).response = some p → p.isPending = false →
      (∀ f, (t.handle f).call k = t.call k) ∧ ∀ fault, (t.failPending fault).call k = t.call k) ∧
    ∀ c : Client, c.around.line = .session s → ∃ t heard,
      c.drain.around.line = .session t ∧ History (past ++ s.traces) t ∧
      (∀ k < s.calls.length, t.call k = s.call k) ∧
      List.Forall₂ Trace.Heard s.traces heard ∧
      c.drain.around.heard = c.around.heard ++ heard.flatten := by
  obtain ⟨handled, hrun⟩ := h.run
  refine ⟨h.reports_once, fun ms k o ho => ?_, fun ms k p hp hdone => hrun.response hp hdone ms,
    fun t k p hp hdone => ⟨call_handle_of_response hp hdone, call_failPending_of_response hp hdone⟩,
    fun c hline => ?_⟩
  · exact (hrun.sameEnd ho ms).outcome.trans ho
  · obtain ⟨rs, heard, hdrain, htraces, hheard, -⟩ := Client.drain_spec hline
    have hlooked : History (past ++ s.traces) (s.after .observe) := h.move .observe
    exact ⟨_, heard, hdrain, hlooked.beginAll rs,
      fun k hk => call_beginAll (s := s.after .observe) hk rs, htraces, hheard⟩

/-- The first caller raises when it is told that its call was cancelled, and the response to it comes
late; the second call is answered twice. -/
theorem callers_told_of_cancellation :
    let moves : List Move := [
      .begin ⟨"first", .list [], true, .socket⟩ (some (.function "raise:told")),
      .begin ⟨"second", .list [], true, .socket⟩ (some (.function "told")),
      .work, .work, .work, .work, .work, .cancel 0, .work, .work, .work, .work,
      .arrive 0 (.text "\x7b\"id\": 1, \"result\": 10\x7d"),
      .arrive 0 (.text "\x7b\"id\": 2, \"result\": 20\x7d"), .work, .work, .work, .work, .work, .work]
    let s := (new "ws://host" false (.int 30) .ignored).afterAll moves
    let later : List Move := [.arrive 0 (.text "\x7b\"id\": 2, \"result\": 30\x7d"), .cancel 1,
      .close, .work, .work, .work]
    let client : Client := ⟨.empty, .new (.session s) true⟩
    History [] s ∧
      (∃ t heard, client.drain.around.line = .session t ∧ t.call 1 = s.call 1 ∧
        List.Forall₂ Trace.Heard s.traces heard ∧ client.drain.around.heard = heard.flatten) ∧
      ("raise:told", [.error (.transport (.cancelled "first")), .value .null]) ∈
        client.drain.around.heard ∧
      ("told", [.value .null, .value (.int 20)]) ∈ client.drain.around.heard ∧
      ∃ told : List Nat, told.length = 2 ∧ told.Nodup ∧ s.ReportsOf told s.traces ∧
        (s.afterAll later).ReportsOf told (s.afterAll later).traces := by
  intro moves s later client
  have h : History [] s := (History.new "ws://host" false (.int 30) .ignored).moves moves
  have hcount : (s.traces.filterMap Trace.report?).length = 2 ∧ 1 < s.calls.length := by
    simp only [s, moves]
    decide +kernel
  have hfirst : s.traces.any (Trace.tells "first" "raise:told" none) := by
    simp only [s, moves]
    decide +kernel
  have hsecond : s.traces.any (Trace.tells "second" "told" (some 20)) := by
    simp only [s, moves]
    decide +kernel
  have hlater : s.shownInAll later = [] ∧
      ((s.afterAll later).traces.filterMap Trace.report?).length = 2 := ⟨rfl, by
    simp only [s, moves, later]
    decide +kernel⟩
  obtain ⟨⟨told, hnodup, hreports, hmoves⟩, -, -, -, hclient⟩ := callers_told_once h
  obtain ⟨more, -, hafter⟩ := hmoves later
  obtain ⟨t, heard, hline, -, hcalls, htraces, hheard⟩ := hclient client rfl
  have hsilence : client.around.heard = [] := rfl
  rw [hsilence, List.nil_append] at hheard
  rw [List.nil_append] at hreports
  rw [hlater.1, List.nil_append, List.nil_append] at hafter
  have htold : told.length = 2 := hreports.length_eq.trans hcount.1
  have hmore : more = [] := by
    have hboth := hafter.length_eq.trans hlater.2
    rw [List.length_append, htold] at hboth
    exact List.length_eq_zero_iff.mp (by omega)
  rw [hmore, List.append_nil] at hafter
  obtain ⟨r, hr, htells⟩ := List.any_eq_true.mp hfirst
  obtain ⟨r', hr', htells'⟩ := List.any_eq_true.mp hsecond
  obtain rfl := Trace.eq_of_tells htells
  obtain rfl := Trace.eq_of_tells htells'
  obtain ⟨x, hx, hcancelled⟩ := Trace.exists_heard htraces hr
  obtain ⟨y, hy, hanswered⟩ := Trace.exists_heard htraces hr'
  refine ⟨h, ⟨t, heard, hline, hcalls 1 hcount.2, htraces, hheard⟩, ?_, ?_, told, htold, hnodup,
    hreports, hafter⟩
  · rw [hheard]
    refine List.mem_flatten_of_mem hx ?_
    simp_all [Trace.Heard]
  · rw [hheard]
    refine List.mem_flatten_of_mem hy ?_
    simp_all [Trace.Heard]

end Session

end Farcall
