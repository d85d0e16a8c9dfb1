import EventMonitor.Library.Course
import EventMonitor.Library.Records
import EventMonitor.Library.Draining
import EventMonitor.Library.JavaScript
import Mathlib.Data.List.Infix

/-!
# How the transports without a WebSocket receive

`Polling` keeps one request under way, and `XhrReceiver` hands on the complete lines of what has
arrived of its response, while more of it arrives. The socket may throw at a line, and it may
clean the transport up in the middle of a loop over lines.
-/

namespace EventMonitor

open Library JavaScript

namespace SockJs

/-- The line feed that ends a frame. -/
def LF : UInt16 := 10

/-- What the socket does with a frame: it may call `doCleanup`, and it may throw. -/
structure Reaction where
  cleanup : Bool
  throws : Bool
  deriving DecidableEq, Repr

/-- A `Polling` with its `XhrReceiver`: `text` is what has arrived of the response to the current request,
and `earlier` are the responses to those before. `received` are the frames handed to the socket, and
`permanent` counts the errors reported to it. -/
structure Polling where
  bufPos : ℕ
  text : JsString
  waiting : Bool
  poll : Bool
  pollIsClosing : Bool
  received : List JsString
  permanent : ℕ
  earlier : List JsString
  deriving DecidableEq, Repr

namespace Polling

/-- A script of the transport; what it throws is what the socket has thrown. -/
abbrev Script := Effect Unit Polling

/-- `abort`, which also closes the request. -/
def abort (s : Polling) : Polling := { s with pollIsClosing := true, poll := false, waiting := false }

/-- `_scheduleRecv`: a new receiver with a request of its own. -/
def scheduleRecv (s : Polling) : Polling := { s with bufPos := 0, text := [], waiting := true, poll := true }

/-- A transport that has just been created. -/
def new : Polling := scheduleRecv ⟨0, [], false, false, false, [], 0, []⟩

section Scripts

variable (ri : List JsString → Reaction)

/-- A frame is handed to the socket, unless the handlers have been removed. -/
def dispatchMessage (frame : JsString) : Script Unit := do
  let s ← get
  if s.poll then
    modify fun s => { s with received := s.received ++ [frame] }
    let reaction := ri (s.received ++ [frame])
    if reaction.cleanup then
      modify abort
    if reaction.throws then
      throw ()
  else
    return ()

/-- The loop of `onchunk`; every round takes at least a line feed from what is left of the text. -/
def chunkLoop : ℕ → Script Unit
  | 0 => return ()
  | fuel + 1 => do
    let s ← get
    let buf := s.text.drop s.bufPos
    match buf.idxOf? LF with
    | none => return ()
    | some p => do
      modify fun s => { s with bufPos := s.bufPos + (p + 1) }
      dispatchMessage ri (buf.take p)
      chunkLoop fuel

/-- `onchunk`, for the text that has arrived so far. -/
def onchunk (status : ℕ) (text : JsString) : Script Unit :=
  if status ≠ 200 then return ()
  else do
    modify fun s => { s with text := text }
    chunkLoop ri text.length

/-- The close event of the receiver. -/
def dispatchClose (status : ℕ) : Script Unit :=
  modify fun s =>
    if s.poll then
      if s.pollIsClosing then { s with poll := false }
      else if status ≠ 200 then { s with poll := false, permanent := s.permanent + 1 }
      else scheduleRecv { s with earlier := s.earlier ++ [s.text] }
    else s

/-- `onfinish`. -/
def onfinish (status : ℕ) (text : JsString) : Script Unit := do
  onchunk ri status text
  dispatchClose status

end Scripts

/-- What can happen to the transport: more of a response arrives, the response is complete, or the socket
cleans up. -/
inductive Label
  | chunk (status : ℕ) (more : JsString)
  | finish (status : ℕ) (more : JsString)
  | cleanup
  deriving DecidableEq, Repr

/-- Run a script to its end. -/
def run (script : Script Unit) (s : Polling) : Polling := (Effect.outcome script s).2

/-- One event at the transport; `none` when it is not possible. -/
def step (ri : List JsString → Reaction) (s : Polling) : Label → Option Polling
  | .chunk status more => if s.waiting then some (run (onchunk ri status (s.text ++ more)) s) else none
  | .finish status more =>
    if s.waiting then some (run (onfinish ri status (s.text ++ more)) { s with waiting := false }) else none
  | .cleanup => some s.abort

/-- All runs of the transport, at a socket that reacts in any way. -/
def system (ri : List JsString → Reaction) : TransitionSystem Polling Label := .ofStep (· = new) (step ri)

/-- How far the current response has been handed on: `done` are the lines behind which reading goes on. -/
structure Reads (s : Polling) (done : List JsString) : Prop where
  lines : ∀ line ∈ done, LF ∉ line
  bufPos : s.bufPos = (Records.write LF done).length
  text : Records.write LF done <+: s.text
  received : s.received <+: s.earlier.flatMap (Records.read LF) ++ done
  kept : s.pollIsClosing = false → s.received = s.earlier.flatMap (Records.read LF) ++ done
  waiting : s.waiting → s.poll
  poll : s.poll → s.pollIsClosing = false

/-- The socket has neither thrown nor cleaned up at any frame so far. -/
def Calm (ri : List JsString → Reaction) (s : Polling) : Prop :=
  ∀ frames, frames ≠ [] → frames <+: s.received → ri frames = ⟨false, false⟩

section Loop

variable {ri : List JsString → Reaction} {s : Polling} {done : List JsString}

/-- What is left of the text stands behind the lines that have been handed on. -/
theorem Reads.text_eq (h : s.Reads done) : s.text = Records.write LF done ++ s.text.drop s.bufPos := by
  obtain ⟨rest, hrest⟩ := h.text
  rw [h.bufPos, ← hrest, List.drop_left]

/-- The next line. -/
theorem Reads.cut (h : s.Reads done) {p : ℕ} (hp : (s.text.drop s.bufPos).idxOf? LF = some p) :
    LF ∉ (s.text.drop s.bufPos).take p ∧
      Records.write LF (done ++ [(s.text.drop s.bufPos).take p]) <+: s.text ∧
      s.bufPos + (p + 1) = (Records.write LF (done ++ [(s.text.drop s.bufPos).take p])).length := by
  obtain ⟨hline, hcut⟩ := Records.cut_of_idxOf? hp
  have hlength : ((s.text.drop s.bufPos).take p).length = p := by
    have hlt := (List.idxOf?_eq_some_iff.mp hp).1
    rw [List.length_take]
    omega
  refine ⟨hline, ?_, ?_⟩
  · rw [Records.write_concat]
    refine ⟨(s.text.drop s.bufPos).drop (p + 1), ?_⟩
    conv_rhs => rw [h.text_eq, hcut]
    simp
  · rw [Records.write_concat, List.length_append, List.length_append, List.length_singleton, hlength, h.bufPos]

/-- All complete lines of the text have been handed on when no line feed is left. -/
theorem Reads.read_text (h : s.Reads done) (hrest : LF ∉ s.text.drop s.bufPos) :
    Records.read LF s.text = done := by
  rw [h.text_eq, Records.read_write_append h.lines, Records.read_of_notMem hrest, List.append_nil]

/-- Cleaning up loses nothing that has been handed on. -/
theorem Reads.abort (h : s.Reads done) : s.abort.Reads done where
  lines := h.lines
  bufPos := h.bufPos
  text := h.text
  received := h.received
  kept := fun hopen => by simp [Polling.abort] at hopen
  waiting := fun hwaiting => by simp [Polling.abort] at hwaiting
  poll := fun hpoll => by simp [Polling.abort] at hpoll

/-- The result of handing on a line, and the state it leaves. -/
def handed (reaction : Reaction) (s : Polling) : Except Unit Unit × Polling :=
  (if reaction.throws then .error () else .ok (), if reaction.cleanup then s.abort else s)

/-- A line is handed to the socket, or dropped if the handlers have been removed. -/
theorem outcome_dispatchMessage (line : JsString) :
    Effect.outcome (dispatchMessage ri line) s =
      if s.poll then handed (ri (s.received ++ [line])) { s with received := s.received ++ [line] }
      else (.ok (), s) := by
  rw [dispatchMessage, Effect.outcome_bind, Effect.outcome_get]
  simp only []
  split
  · rw [Effect.outcome_bind, Effect.outcome_modify]
    simp only [handed]
    rcases ri (s.received ++ [line]) with ⟨_ | _, _ | _⟩ <;> rfl
  · rfl

/-- What the loop goes on with. -/
structure Goes (ri : List JsString → Reaction) (s : Polling) (done : List JsString)
    (out : Except Unit Unit × Polling) : Prop where
  reads : out.2.Reads done
  live : out.2.poll = !out.2.pollIsClosing
  text : out.2.text = s.text
  earlier : out.2.earlier = s.earlier
  waiting : out.2.waiting → s.waiting
  calm : Calm ri out.2 → out.2.pollIsClosing = false → out.1 = .ok ()

variable (ri) in
/-- Handing on the next line. -/
theorem Reads.dispatchMessage (h : s.Reads done) (hlive : s.poll = !s.pollIsClosing) {line : JsString}
    (hline : LF ∉ line) (htext : Records.write LF (done ++ [line]) <+: s.text) {p : ℕ}
    (hp : s.bufPos + (p + 1) = (Records.write LF (done ++ [line])).length) :
    Goes ri s (done ++ [line])
      (Effect.outcome (Polling.dispatchMessage ri line) { s with bufPos := s.bufPos + (p + 1) }) := by
  have hlines : ∀ other ∈ done ++ [line], LF ∉ other := by
    intro other hmem
    rcases List.mem_append.mp hmem with hearlier | hlast
    · exact h.lines other hearlier
    · exact List.mem_singleton.mp hlast ▸ hline
  rw [outcome_dispatchMessage]
  by_cases hpoll : s.poll
  · have hopen : s.pollIsClosing = false := h.poll hpoll
    have hreceived : s.received ++ [line] = s.earlier.flatMap (Records.read LF) ++ (done ++ [line]) := by
      rw [h.kept hopen, List.append_assoc]
    have hreads : Reads { s with bufPos := s.bufPos + (p + 1), received := s.received ++ [line] }
        (done ++ [line]) :=
      ⟨hlines, hp, htext, ⟨[], by simp [hreceived]⟩, fun _ => hreceived, h.waiting, h.poll⟩
    rw [if_pos hpoll]
    rcases hreaction : ri (s.received ++ [line]) with ⟨_ | _, throws⟩
    · refine ⟨hreads, hlive, rfl, rfl, id, fun hcalm _ => ?_⟩
      have hnone := hcalm (s.received ++ [line]) (by simp) (List.prefix_refl _)
      rw [hreaction] at hnone
      simp only [Reaction.mk.injEq] at hnone
      simp [handed, hnone.2]
    · exact ⟨hreads.abort, rfl, rfl, rfl, fun hwaits => by simp [handed, Polling.abort] at hwaits,
        fun _ hstill => by simp [handed, Polling.abort] at hstill⟩
  · have hclosing : s.pollIsClosing = true := by simpa [hpoll] using hlive
    have hreceived : s.received <+: s.earlier.flatMap (Records.read LF) ++ (done ++ [line]) := by
      rw [← List.append_assoc]
      exact h.received.trans (List.prefix_append _ _)
    rw [if_neg hpoll]
    exact ⟨⟨hlines, hp, htext, hreceived, fun hopen => by simp [hclosing] at hopen, h.waiting, h.poll⟩, hlive, rfl,
      rfl, id, fun _ _ => rfl⟩

/-- The loop hands on all lines in order; it stops behind a line at which the socket throws. -/
theorem Reads.chunkLoop (h : s.Reads done) (hlive : s.poll = !s.pollIsClosing) (fuel : ℕ)
    (hfuel : (s.text.drop s.bufPos).length ≤ fuel) :
    ∃ done', Goes ri s done' (Effect.outcome (Polling.chunkLoop ri fuel) s) ∧
      ((Effect.outcome (Polling.chunkLoop ri fuel) s).1 = .ok () →
        LF ∉ (Effect.outcome (Polling.chunkLoop ri fuel) s).2.text.drop
          (Effect.outcome (Polling.chunkLoop ri fuel) s).2.bufPos) := by
  induction fuel generalizing s done with
  | zero =>
    refine ⟨done, ⟨h, hlive, rfl, rfl, id, fun _ _ => rfl⟩, fun _ => ?_⟩
    have hempty := List.eq_nil_of_length_eq_zero (Nat.le_zero.mp hfuel)
    change LF ∉ s.text.drop s.bufPos
    simp [hempty]
  | succ fuel ih =>
    rw [Polling.chunkLoop, Effect.outcome_bind, Effect.outcome_get]
    simp only []
    rcases hp : (s.text.drop s.bufPos).idxOf? LF with _ | p
    · exact ⟨done, ⟨h, hlive, rfl, rfl, id, fun _ _ => rfl⟩, fun _ => List.idxOf?_eq_none_iff.mp hp⟩
    · obtain ⟨hline, htext, hpos⟩ := h.cut hp
      have hgoes := Reads.dispatchMessage ri h hlive hline htext hpos
      simp only []
      rw [Effect.outcome_bind, Effect.outcome_modify]
      simp only []
      rw [Effect.outcome_bind]
      rcases hout : Effect.outcome (Polling.dispatchMessage ri ((s.text.drop s.bufPos).take p))
        { s with bufPos := s.bufPos + (p + 1) } with ⟨_ | _, t⟩ <;> rw [hout] at hgoes
      · exact ⟨_, hgoes, fun hok => by simp at hok⟩
      · have hbufPos : t.bufPos = s.bufPos + (p + 1) := hgoes.reads.bufPos.trans hpos.symm
        have hlength : (t.text.drop t.bufPos).length ≤ fuel := by
          rw [List.length_drop] at hfuel ⊢
          rw [hbufPos, hgoes.text]
          omega
        obtain ⟨done', hlater, hrest⟩ := ih hgoes.reads hgoes.live hlength
        exact ⟨done', ⟨hlater.reads, hlater.live, hlater.text.trans hgoes.text,
          hlater.earlier.trans hgoes.earlier, fun hwaits => hgoes.waiting (hlater.waiting hwaits), hlater.calm⟩,
          hrest⟩

/-- At rest, everything that is complete has been handed on, unless the socket has thrown or cleaned up. -/
structure Rests (ri : List JsString → Reaction) (s : Polling) (done : List JsString) : Prop extends
    Reads s done where
  rest : Calm ri s → s.pollIsClosing = false → LF ∉ s.text.drop s.bufPos

variable (ri) in
/-- More of a successful response arrives. -/
theorem Reads.onchunk (h : s.Reads done) (hlive : s.poll = !s.pollIsClosing) (more : JsString) :
    ∃ done', Goes ri { s with text := s.text ++ more } done'
        (Effect.outcome (Polling.onchunk ri 200 (s.text ++ more)) s) ∧
      ((Effect.outcome (Polling.onchunk ri 200 (s.text ++ more)) s).1 = .ok () →
        LF ∉ (Effect.outcome (Polling.onchunk ri 200 (s.text ++ more)) s).2.text.drop
          (Effect.outcome (Polling.onchunk ri 200 (s.text ++ more)) s).2.bufPos) := by
  rw [Polling.onchunk, if_neg (by simp), Effect.outcome_bind, Effect.outcome_modify]
  have hmore : Reads { s with text := s.text ++ more } done :=
    { h with text := h.text.trans (List.prefix_append _ _) }
  exact hmore.chunkLoop hlive (s.text ++ more).length (by simp)

/-- The next request is made. -/
theorem Reads.scheduleRecv (h : s.Reads done) (hopen : s.pollIsClosing = false)
    (hrest : LF ∉ s.text.drop s.bufPos) :
    (Polling.scheduleRecv { s with earlier := s.earlier ++ [s.text] }).Rests ri [] := by
  have hreceived : s.received = (s.earlier ++ [s.text]).flatMap (Records.read LF) ++ [] := by
    rw [h.kept hopen, List.flatMap_append, List.flatMap_singleton, h.read_text hrest, List.append_nil]
  exact ⟨⟨by simp, rfl, List.nil_prefix, ⟨[], by simp [Polling.scheduleRecv, hreceived]⟩, fun _ => hreceived,
    fun _ => rfl, fun _ => hopen⟩, fun _ _ => by simp [Polling.scheduleRecv]⟩

/-- The receiver is closed. -/
theorem Rests.dispatchClose (h : s.Rests ri done) (hwaiting : s.waiting = false) (status : ℕ)
    (hrest : status = 200 → LF ∉ s.text.drop s.bufPos) :
    ∃ done', (run (Polling.dispatchClose status) s).Rests ri done' := by
  have hclosed (permanent : ℕ) : Rests ri { s with poll := false, permanent := permanent } done :=
    ⟨{ h.toReads with
        waiting := fun hwaits => by simp [hwaiting] at hwaits
        poll := fun hpoll => by simp at hpoll }, h.rest⟩
  rw [run, Polling.dispatchClose, Effect.outcome_modify]
  split
  next hpoll =>
    split
    next => exact ⟨done, hclosed s.permanent⟩
    next hopen =>
      split
      next => exact ⟨done, hclosed (s.permanent + 1)⟩
      next hstatus => exact ⟨[], h.toReads.scheduleRecv (by simpa using hopen) (hrest (not_not.mp hstatus))⟩
  next => exact ⟨done, h⟩

/-- Every event hands on lines in order. -/
theorem rests_step {l : Label} {t : Polling} (h : s.Rests ri done) (hstep : step ri s l = some t) :
    ∃ done', t.Rests ri done' := by
  have hlive (hwaiting : s.waiting = true) : s.poll = !s.pollIsClosing := by
    have hpoll := h.waiting hwaiting
    rw [hpoll, h.poll hpoll]
    rfl
  cases l with
  | cleanup =>
    obtain rfl := Option.some.inj hstep
    exact ⟨done, h.abort, fun _ hopen => by simp [Polling.abort] at hopen⟩
  | chunk status more =>
    obtain ⟨hwaiting, hrun⟩ := Option.ite_none_right_eq_some.mp hstep
    obtain rfl := Option.some.inj hrun
    by_cases hstatus : status = 200
    · obtain ⟨done', hgoes, hrest⟩ := Reads.onchunk ri h.toReads (hlive hwaiting) more
      rw [hstatus]
      exact ⟨done', hgoes.reads, fun hcalm hopen => hrest (hgoes.calm hcalm hopen)⟩
    · rw [run, Polling.onchunk, if_pos hstatus]
      exact ⟨done, h⟩
  | finish status more =>
    obtain ⟨hwaiting, hrun⟩ := Option.ite_none_right_eq_some.mp hstep
    obtain rfl := Option.some.inj hrun
    have hfinished : Reads { s with waiting := false } done :=
      { h.toReads with waiting := fun hwaits => by simp at hwaits }
    rw [run, onfinish, Effect.outcome_bind]
    by_cases hstatus : status = 200
    · obtain ⟨done', hgoes, hrest⟩ := Reads.onchunk ri hfinished (hlive hwaiting) more
      have hstopped : (Effect.outcome (Polling.onchunk ri 200 (s.text ++ more)) { s with waiting := false }).2.Rests
          ri done' := ⟨hgoes.reads, fun hcalm hopen => hrest (hgoes.calm hcalm hopen)⟩
      rw [hstatus]
      rcases hout : Effect.outcome (Polling.onchunk ri 200 (s.text ++ more)) { s with waiting := false } with
        ⟨_ | _, t⟩ <;> rw [hout] at hgoes hrest hstopped
      · exact ⟨done', hstopped⟩
      · have hwaits : t.waiting = false := by
          rw [Bool.eq_false_iff]
          exact fun hwaits => by simpa using hgoes.waiting hwaits
        exact hstopped.dispatchClose hwaits 200 fun _ => hrest rfl
    · rw [Polling.onchunk, if_pos hstatus]
      exact Rests.dispatchClose ⟨hfinished, h.rest⟩ rfl status fun h200 => absurd h200 hstatus

end Loop

/-- The frame at which the socket cleans up is the last one that it is handed. -/
structure Hushed (ri : List JsString → Reaction) (s : Polling) : Prop where
  last : ∀ frames, frames ≠ [] → frames <+: s.received → (ri frames).cleanup →
    s.received = frames ∧ s.pollIsClosing = true
  poll : s.poll → s.pollIsClosing = false

section Cleanup

variable {ri : List JsString → Reaction} {s t : Polling}

/-- What the frames that have been handed on do not depend on. -/
theorem Hushed.update (h : s.Hushed ri) (hreceived : t.received = s.received)
    (hclosing : t.pollIsClosing = s.pollIsClosing) (hpoll : t.poll → s.poll) : t.Hushed ri := by
  refine ⟨?_, fun hlive => hclosing.trans (h.poll (hpoll hlive))⟩
  rw [hreceived, hclosing]
  exact h.last

/-- Cleaning up. -/
theorem Hushed.abort (h : s.Hushed ri) : s.abort.Hushed ri where
  last := fun frames hne hfront hcleanup => ⟨(h.last frames hne hfront hcleanup).1, rfl⟩
  poll := fun hpoll => by simp [Polling.abort] at hpoll

/-- A line is handed on only while the socket has not cleaned up at any line before it. -/
theorem Hushed.dispatchMessage (h : s.Hushed ri) (line : JsString) :
    (Effect.outcome (Polling.dispatchMessage ri line) s).2.Hushed ri := by
  rw [outcome_dispatchMessage]
  by_cases hpoll : s.poll
  · have hopen := h.poll hpoll
    -- No frame before this one can have been a reason to clean up.
    have hnew (frames : List JsString) (hne : frames ≠ []) (hfront : frames <+: s.received ++ [line])
        (hcleanup : (ri frames).cleanup) : s.received ++ [line] = frames := by
      rcases List.prefix_concat_iff.mp hfront with hwhole | hearlier
      · exact hwhole.symm
      · have hclosing := (h.last frames hne hearlier hcleanup).2
        simp [hopen] at hclosing
    rw [if_pos hpoll, handed]
    rcases hreaction : ri (s.received ++ [line]) with ⟨_ | _, throws⟩
    · refine ⟨fun frames hne hfront hcleanup => ?_, h.poll⟩
      rw [← hnew frames hne hfront hcleanup, hreaction] at hcleanup
      simp at hcleanup
    · exact ⟨fun frames hne hfront hcleanup => ⟨hnew frames hne hfront hcleanup, rfl⟩,
        fun hlive => by simp [Polling.abort] at hlive⟩
  · rw [if_neg hpoll]
    exact h

variable (ri) in
/-- So it is in the loop over the lines of a chunk. -/
theorem follows_chunkLoop (fuel : ℕ) :
    Effect.Follows (Hushed ri) (fun _ t => t.Hushed ri) (Polling.chunkLoop ri fuel) := by
  have hadvance (p : ℕ) : Effect.Follows (Hushed ri) (fun _ t => t.Hushed ri)
      (modify fun s => { s with bufPos := s.bufPos + (p + 1) } : Script Unit) :=
    .modify fun s hs => hs.update rfl rfl id
  have hdispatch (line : JsString) : Effect.Follows (Hushed ri) (fun _ t => t.Hushed ri)
      (Polling.dispatchMessage ri line) := fun s hs => .single (hs.dispatchMessage line)
  induction fuel with
  | zero => exact .pure ()
  | succ fuel ih =>
    refine .get_bind fun s hs => ?_
    simp only []
    rcases (s.text.drop s.bufPos).idxOf? LF with _ | p
    · exact .refl
    · exact Effect.Follows.bind .into (hadvance p) (fun _ => .bind .into (hdispatch _) fun _ => ih) s hs

variable (ri) in
/-- A chunk. -/
theorem follows_onchunk (status : ℕ) (text : JsString) :
    Effect.Follows (Hushed ri) (fun _ t => t.Hushed ri) (Polling.onchunk ri status text) := by
  rw [Polling.onchunk]
  split
  · exact .pure ()
  · exact .bind .into (.modify fun s hs => hs.update rfl rfl id) fun _ => follows_chunkLoop ri _

/-- The receiver is closed; only a transport that has not been cleaned up makes another request. -/
theorem Hushed.dispatchClose (h : s.Hushed ri) (status : ℕ) : (run (Polling.dispatchClose status) s).Hushed ri := by
  rw [run, Polling.dispatchClose, Effect.outcome_modify]
  split
  next hpoll =>
    split
    next => exact h.update rfl rfl fun _ => hpoll
    next =>
      split
      next => exact h.update rfl rfl fun _ => hpoll
      next => exact h.update rfl rfl fun _ => hpoll
  next => exact h

/-- Every event leaves the frames after a clean-up to the server. -/
theorem Hushed.step {l : Label} (h : s.Hushed ri) (hstep : Polling.step ri s l = some t) : t.Hushed ri := by
  cases l with
  | cleanup =>
    obtain rfl := Option.some.inj hstep
    exact h.abort
  | chunk status more =>
    obtain ⟨-, hrun⟩ := Option.ite_none_right_eq_some.mp hstep
    obtain rfl := Option.some.inj hrun
    exact Effect.Keeps.into.path h (follows_onchunk ri status _ s h)
  | finish status more =>
    obtain ⟨-, hrun⟩ := Option.ite_none_right_eq_some.mp hstep
    obtain rfl := Option.some.inj hrun
    have hwaited : Hushed ri { s with waiting := false } := h.update rfl rfl id
    have hfollows : Effect.Follows (Hushed ri) (fun _ t => t.Hushed ri) (onfinish ri status (s.text ++ more)) :=
      .bind .into (follows_onchunk ri status _) fun _ s hs => .single (hs.dispatchClose status)
    exact Effect.Keeps.into.path hwaited (hfollows _ hwaited)

/-- So it is in every run. -/
theorem hushed_of_reachable (h : (system ri).Reachable s) : s.Hushed ri := by
  refine h.invariant (P := Hushed ri) ?_ fun s l t hs hstep => hs.step hstep
  rintro s rfl
  refine ⟨fun frames hne hfront _ => ?_, fun _ => rfl⟩
  exact absurd (List.prefix_nil.mp hfront) hne

end Cleanup

section Runs

variable {ri : List JsString → Reaction} {s t : Polling}

/-- A new transport has handed on nothing. -/
theorem rests_new : new.Rests ri [] := by
  constructor
  · constructor <;> simp [new, scheduleRecv, Records.write]
  · simp [new, scheduleRecv]

/-- Lines are handed on in order in every run. -/
theorem exists_rests (h : (system ri).Reachable s) : ∃ done, s.Rests ri done := by
  refine h.invariant (P := fun s => ∃ done, s.Rests ri done) ?_ ?_
  · rintro s rfl
    exact ⟨[], rests_new⟩
  · rintro s l t ⟨done, hs⟩ hstep
    exact rests_step hs hstep

/-- The socket is handed the complete lines of the responses, once and in order, however these have been
cut on their way; and it has been handed all of them unless it has thrown or cleaned up. -/
theorem lines_in_order (h : (system ri).Reachable s) :
    s.received <+: (s.earlier ++ [s.text]).flatMap (Records.read LF) ∧
      (Calm ri s → s.pollIsClosing = false →
        s.received = (s.earlier ++ [s.text]).flatMap (Records.read LF)) := by
  obtain ⟨done, hs⟩ := exists_rests h
  have hread : (s.earlier ++ [s.text]).flatMap (Records.read LF) =
      s.earlier.flatMap (Records.read LF) ++ done ++ Records.read LF (s.text.drop s.bufPos) := by
    rw [List.flatMap_append, List.flatMap_singleton, hs.text_eq, Records.read_write_append hs.lines,
      ← hs.text_eq, List.append_assoc]
  constructor
  · rw [hread]
    exact hs.received.trans (List.prefix_append _ _)
  · intro hcalm hopen
    rw [hread, Records.read_of_notMem (hs.rest hcalm hopen), List.append_nil]
    exact hs.kept hopen

/-- No event hands on anything to a socket that has cleaned up, or makes another request. -/
theorem received_of_closing {later : List (TransitionSystem.Taken Polling Label)} (hclosing : s.pollIsClosing = true)
    (hsilent : s.waiting = false) (hlater : (system ri).Path s later t) :
    t.received = s.received ∧ t.waiting = false := by
  induction hlater with
  | nil => exact ⟨rfl, hsilent⟩
  | @cons s u t l later hstep _ ih =>
    cases l with
    | chunk status more => simp [system, TransitionSystem.ofStep, step, hsilent] at hstep
    | finish status more => simp [system, TransitionSystem.ofStep, step, hsilent] at hstep
    | cleanup =>
      obtain rfl := Option.some.inj hstep
      exact ih rfl rfl

/-- After the socket has cleaned up, nothing is handed to it any more, and no request is made: it gets no frame
behind the one at which it cleans up, of the same chunk or of a later one, and nothing after a clean-up between
two chunks. -/
theorem silent_after_cleanup (h : (system ri).Reachable s) :
    (∀ frames, frames ≠ [] → frames <+: s.received → (ri frames).cleanup →
        s.received = frames ∧ s.pollIsClosing = true) ∧
      (s.pollIsClosing = true → ∀ later t, (system ri).Path s later t →
        t.received = s.received ∧ t.waiting = false) := by
  refine ⟨(hushed_of_reachable h).last, fun hclosing later t hlater => ?_⟩
  obtain ⟨done, hs⟩ := exists_rests h
  refine received_of_closing hclosing ?_ hlater
  rw [Bool.eq_false_iff]
  intro hwaiting
  have hopen := hs.poll (hs.waiting hwaiting)
  simp [hclosing] at hopen

/-- A replay from a new transport ends in a reachable state. -/
theorem exists_reachable (ri : List JsString → Reaction) (labels : List Label) {α : Type} (view : Polling → α)
    {a : α} (h : (TransitionSystem.replay (step ri) new labels).map view = some a) :
    ∃ s, (system ri).Reachable s ∧ view s = a :=
  TransitionSystem.exists_reachable_of_replay labels view rfl h

/-- Two responses, the first one cut within a frame. -/
theorem two_responses_in_order : ∃ s : Polling,
    s.received <+: (s.earlier ++ [s.text]).flatMap (Records.read LF) ∧
      s.received = [literal "o", literal "a[]", literal "h"] := by
  obtain ⟨s, hs, hview⟩ := exists_reachable (fun _ => ⟨false, false⟩)
    [.chunk 200 (literal "o\na["), .chunk 200 (literal "]"), .finish 200 (literal "\n"),
      .finish 200 (literal "h\n")] received (a := [literal "o", literal "a[]", literal "h"]) (by decide)
  exact ⟨s, (lines_in_order hs).1, hview⟩

/-- A socket that cleans up at the second of three frames does not get the third one. -/
theorem third_frame_silent : ∃ s t : Polling, s.received = [literal "o", literal "c[]"] ∧
    s.text = literal "o\nc[]\nh\n" ∧ t.received = s.received ∧ t.waiting = false := by
  obtain ⟨s, hs, hview⟩ := exists_reachable (fun frames => ⟨frames.length = 2, false⟩)
    [.chunk 200 (literal "o\nc[]\nh\n")] (fun s => (s.received, s.text))
    (a := ([literal "o", literal "c[]"], literal "o\nc[]\nh\n")) (by decide)
  rw [Prod.mk.injEq] at hview
  obtain ⟨hlast, hsilent⟩ := silent_after_cleanup hs
  have hclosing := (hlast s.received (by simp [hview.1]) (List.prefix_refl _) (by simp [hview.1])).2
  have hlater : (system fun frames => ⟨frames.length = 2, false⟩).Path s [⟨s, .cleanup, s.abort⟩] s.abort :=
    .cons rfl (.nil _)
  exact ⟨s, s.abort, hview.1, hview.2, hsilent hclosing _ _ hlater⟩

end Runs

end Polling

end SockJs

end EventMonitor
