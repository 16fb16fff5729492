import GraphServe.EngineFile.Contents
import GraphServe.Proofs.Boundary.Calls

/-!
# Messages of failed calls

Whatever a thread did before, the message that is pending right after a call that failed is that of
this very failure, and it can be asked for once. It is the text of the error, if the engine raised
one, and is missing exactly if that text holds the character that ends texts
(`failure_leaves_message`), as the name of a kernel in an engine file may (`message_lost`).
-/

namespace GraphServe.Boundary

/-! ## What a thread does -/

/-- What a thread may ask for: a call that ends with a status, or something that cannot fail. -/
inductive Action : Type 1 where
  | call {Memory : Type} (call : Call Memory) (memory : Memory)
  | isUsable (backend : Option BackendHandle)
  | resultSize (result : Option ResultHandle)
  | destroyResult (result : Option ResultHandle)
  | takeMessage
  /-- Gives back a text that was handed out. -/
  | releaseText

namespace Session

/-- The session after an action. -/
def act (s : Session) : Action → Session
  | .call call memory => (s.perform call memory).session
  | .destroyResult r => s.destroyResult r
  | .takeMessage => s.takeMessage.2
  | .isUsable _ => s
  | .resultSize _ => s
  | .releaseText => s

/-- The session after a row of actions. -/
def run (s : Session) (actions : List Action) : Session := actions.foldl act s

/-- The text that is handed out when the pending message is asked for. -/
def message? (s : Session) : Option String := s.takeMessage.1.map Complaint.text

/-! ## What is handed out -/

variable {s : Session}

theorem message?_complain_of_own {c : Complaint} (h : c.Own) :
    (s.complain c).message? = some c.text := by
  change c.pending?.map Complaint.text = some c.text
  rw [h.pending?_eq]
  rfl

theorem message?_complain_engine (e : EngineError) :
    (s.complain (.engine e)).message? = if Tellable e.message then some e.message else none := by
  change (Complaint.engine e).pending?.map Complaint.text = _
  rw [Complaint.pending?_engine, apply_ite (Option.map Complaint.text)]
  rfl

/-- Nothing is left to ask for once a message was handed out. -/
theorem message?_takeMessage (s : Session) : s.takeMessage.2.message? = none := rfl

/-- A message that no engine error has is a complaint about the call itself. -/
theorem not_raises_of_own {Memory : Type} {call : Call Memory} {memory : Memory} {c : Complaint}
    (hpending : (s.perform call memory).session.pending = some c) (hown : c.Own)
    (e : EngineError) : ¬ Raises s call memory e := by
  intro hraises
  obtain ⟨after, hafter⟩ := perform_of_raises hraises
  rw [hafter] at hpending
  change (Complaint.engine e).pending? = some c at hpending
  rw [Complaint.pending?_engine] at hpending
  split at hpending
  · cases hpending
    exact hown
  · cases hpending

/-- How the message of a call that failed comes about. -/
theorem message?_perform_of_failed {Memory : Type} {call : Call Memory} {memory : Memory}
    (h : (s.perform call memory).status ≠ .ok) :
    (∃ e, Raises s call memory e ∧ (s.perform call memory).status = .ofError e ∧
      (s.perform call memory).session.message? =
        if Tellable e.message then some e.message else none) ∨
    (∀ e, ¬ Raises s call memory e) ∧
      ∃ text, (s.perform call memory).session.message? = some text := by
  obtain ⟨c, left, after, hvoices, -, hreply⟩ := exists_of_failed h
  cases hvoices with
  | own hown =>
    have hpending : (s.perform call memory).session.pending = some c := by
      rw [hreply]
      exact hown.pending?_eq
    refine Or.inr ⟨not_raises_of_own hpending hown, c.text, ?_⟩
    rw [hreply]
    exact message?_complain_of_own hown
  | @engine e hraises =>
    refine Or.inl ⟨e, hraises, ?_, ?_⟩
    · rw [hreply]
      rfl
    · rw [hreply]
      exact message?_complain_engine e

/-- After any row of actions, a call that fails leaves a message that can be asked for once and does
not depend on what was pending before. If the engine raised an error, the status is that of the
error and the message its text, unless the text holds the character that ends texts; else the call
itself was at fault, and there is a message in any case. -/
theorem failure_leaves_message (device : Device) (history : List Action) {Memory : Type}
    (call : Call Memory) (memory : Memory)
    (hfailed : (((start device).run history).perform call memory).status ≠ .ok) :
    let s := (start device).run history
    let reply := s.perform call memory
    ((∃ e, Raises s call memory e ∧ reply.status = .ofError e ∧
        reply.session.message? = if Tellable e.message then some e.message else none) ∨
      (∀ e, ¬ Raises s call memory e) ∧ ∃ text, reply.session.message? = some text) ∧
    reply.session.takeMessage.2.message? = none ∧
    ∀ earlier, ({ s with pending := earlier }.perform call memory).session.message? =
      reply.session.message? := by
  intro s reply
  refine ⟨message?_perform_of_failed hfailed, message?_takeMessage _, ?_⟩
  intro earlier
  rw [perform_of_failed earlier hfailed]

/-- A file that is not there, asked for after a question about no backend whose message nobody
asked for: the message tells of the file, once. -/
theorem failure_leaves_message_no_file :
    let history := [Action.call (.inputCount none) (some 3)]
    let s := (start (Device.new .builtin none (.upTo 4096))).run history
    let reply := s.perform (.create .empty (.upTo 4096) (some [99]) none) (some none)
    s.message? = some "null argument" ∧ reply.status = .modelLoad ∧
      reply.session.message? = some "IO error: No such file or directory (os error 2)" ∧
      reply.session.takeMessage.2.message? = none := by
  intro history s reply
  have hconfig : Params.default.config (some [99]) = .ok (BackendConfig.new "c") := by decide +kernel
  have hsetup : Backend.setup .empty (.upTo 4096) (BackendConfig.new "c") =
      .error (.io .notFound) := rfl
  have hstatus : reply.status = .modelLoad := by decide +kernel
  have hfailed : reply.status ≠ .ok := by
    rw [hstatus]
    decide
  obtain ⟨hmessage, honce, -⟩ := failure_leaves_message (Device.new .builtin none (.upTo 4096))
    history (.create .empty (.upTo 4096) (some [99]) none) (some none) hfailed
  refine ⟨by decide +kernel, hstatus, ?_, honce⟩
  rcases hmessage with ⟨e, ⟨config, hread, hraised⟩, -, hmessage⟩ | ⟨hnone, -⟩
  · obtain rfl : BackendConfig.new "c" = config := Except.ok.inj (hconfig.symm.trans hread)
    obtain rfl : EngineError.io .notFound = e := Except.error.inj (hsetup.symm.trans hraised)
    rw [if_pos (by decide +kernel)] at hmessage
    exact hmessage
  · exact absurd ⟨_, hconfig, hsetup⟩ (hnone (.io .notFound))

/-- The engine file of a kernel whose name holds the character that ends texts cannot be served, and
nobody learns why. -/
theorem message_lost :
    let files : Files := ⟨fun _ => .ok (EngineFile.Contents.toBytes
      ⟨"k\x00", [⟨"y", .output, .f32, ⟨[.fixed 1], by decide⟩⟩], []⟩)⟩
    let reply := (start (Device.new .builtin none (.upTo 4096))).perform
      (.create files (.upTo 4096) (some [99]) none) (some none)
    reply.status = .modelLoad ∧ reply.session.message? = none := by
  decide +kernel

end Session

end GraphServe.Boundary
