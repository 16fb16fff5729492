import GraphServe.Proofs.Boundary.Results
import GraphServe.Proofs.Boundary.Texts
import GraphServe.Proofs.Except

/-!
# Calls from outside

Every call that ends with a status is one `Call`, performed on a session and on the memory of the
caller. How such a call can end is said once (`perform_ended`): well, with nothing pending that was
not pending before, or with a complaint, which is about the call itself and can be told, or comes
from the engine (`Raises`). A call that fails leaves the caller's memory alone, apart from the rank of
a shape that could not be copied (`RankTold`), and what was pending before it makes no difference
(`perform_of_failed`).
-/

namespace GraphServe.Boundary

/-! ## Complaints about the call itself -/

namespace Complaint

/-- A complaint about the call itself, with a text that can be told. -/
def Own : Complaint → Prop
  | .argument text => Tellable text
  | .internal => True
  | .engine _ => False

/-- A complaint that spells its text out. -/
theorem own_ofList {cs : List Char} (h : cs.all (· != terminator) = true) :
    (argument (String.ofList cs)).Own :=
  tellable_ofList h

theorem Own.pending?_eq {c : Complaint} (h : c.Own) : c.pending? = some c := by
  cases c with
  | argument text => exact if_neg h
  | internal => exact if_neg (tellable_ofList rfl)
  | engine cause => exact h.elim

/-- A complaint of the engine is told exactly if its message can be. -/
theorem pending?_engine (e : EngineError) :
    (engine e).pending? = if Tellable e.message then some (engine e) else none := by
  by_cases h : Tellable e.message
  · rw [if_pos h]
    exact if_neg h
  · rw [if_neg h]
    exact if_pos (not_not.1 h)

end Complaint

section complaints

variable {c : Complaint} {α : Type}

theorem own_of_readText {what : String} {bytes : Bytes} (hwhat : Tellable what)
    (h : readText what bytes = .error c) : c.Own := by
  rw [readText] at h
  split at h
  · cases h
  · next fault _ =>
    cases h
    exact Tellable.append (.append (.append (tellable_ofList rfl) hwhat) (tellable_ofList rfl))
      (tellable_utf8Fault fault)

theorem own_of_requirePresent {present : Bool} {text : String} (htext : Tellable text)
    (h : Session.requirePresent present text = .error c) : c.Own := by
  rw [Session.requirePresent] at h
  split at h
  · cases h
  · cases h
    exact htext

theorem own_of_inputSizes {p : Params} (h : p.inputSizes = .error c) : c.Own := by
  rw [Params.inputSizes] at h
  split at h
  · cases h
  · split at h
    · cases h
      exact Complaint.own_ofList rfl
    · simp only at h
      split at h
      · cases h
        trivial
      · split at h
        · cases h
        · split at h
          · cases h
          · cases h
            exact Complaint.own_ofList rfl

theorem own_of_modelPath {p : Params} {path : Option Bytes} (h : p.modelPath path = .error c) :
    c.Own := by
  cases path with
  | none =>
    rw [Params.modelPath] at h
    split at h
    · cases h
      exact Complaint.own_ofList rfl
    · cases h
  | some bytes => exact own_of_readText (tellable_ofList rfl) h

theorem own_of_config {p : Params} {path : Option Bytes} (h : p.config path = .error c) :
    c.Own := by
  rw [Params.config] at h
  rcases bind_eq_error_iff.1 h with hpath | ⟨modelPath, -, h⟩
  · exact own_of_modelPath hpath
  · rcases bind_eq_error_iff.1 h with hsizes | ⟨sizes, -, h⟩
    · exact own_of_inputSizes hsizes
    · cases h

theorem own_of_readInputs {index : Nat} {inputs : List InputBuffer}
    (h : readInputs index inputs = .error c) : c.Own := by
  induction inputs generalizing index with
  | nil => cases h
  | cons first rest ih =>
    cases first with
    | bytes data =>
      rw [readInputs] at h
      rcases bind_eq_error_iff.1 h with hrest | ⟨others, -, h⟩
      · exact ih hrest
      · cases h
    | absent length =>
      cases length with
      | zero =>
        rw [readInputs] at h
        rcases bind_eq_error_iff.1 h with hrest | ⟨others, -, h⟩
        · exact ih hrest
        · cases h
      | succ length =>
        cases h
        exact Tellable.append (.append (tellable_ofList rfl) (tellable_toString index))
          (tellable_ofList rfl)

theorem own_of_callInputs {inputs : Option (List InputBuffer)} {count : Nat}
    (h : Session.callInputs inputs count = .error c) : c.Own := by
  unfold Session.callInputs at h
  split at h
  · cases h
  · split at h
    · cases h
      exact Complaint.own_ofList rfl
    · exact own_of_readInputs h

theorem own_outOfRange (index : Nat) : (outOfRange index).Own :=
  Tellable.append (.append (tellable_ofList rfl) (tellable_toString index)) (tellable_ofList rfl)

/-- A copy is refused for the room or for the want of a destination. -/
theorem own_of_copyOut {values : List α} {memory : Slot (List α)} {capacity : Nat}
    (h : copyOut values memory capacity = .error c) :
    c.Own ∧ (capacity < values.length ∨ memory = none ∧ values ≠ []) := by
  unfold copyOut at h
  split at h
  · next hroom =>
    cases h
    refine ⟨?_, Or.inl hroom⟩
    exact Tellable.append (.append (.append (.append (tellable_ofList rfl)
      (tellable_toString capacity)) (tellable_ofList rfl)) (tellable_toString values.length))
      (tellable_ofList rfl)
  · split at h
    · cases h
    · next hsome =>
      split at h
      · cases h
        refine ⟨Complaint.own_ofList rfl, Or.inr ⟨rfl, ?_⟩⟩
        rintro rfl
        exact hsome rfl
      · cases h

theorem own_of_copyValues {view : Element → Option α} {output : InferenceOutput} {index : Nat}
    {memory : Slot (List α)} {capacity : Nat}
    (h : copyValues view output index memory capacity = .error c) : c.Own := by
  unfold copyValues at h
  split at h
  · cases h
    exact own_outOfRange index
  · split at h
    · exact (own_of_copyOut h).1
    · cases h
      exact Tellable.append (.append (.append (.append (tellable_ofList rfl)
        (tellable_toString index)) (tellable_ofList rfl)) (tellable_hostType _))
        (tellable_ofList rfl)

end complaints

/-! ## Calls with a status -/

/-- The calls that end with a status, by the memory of the caller that each may write. -/
inductive Call : Type → Type 1 where
  | create (files : Files) (host : Host) (path : Option Bytes) (params : Option Params) :
    Call (Slot (Option BackendHandle))
  | createFromConfig (library : SettingLibrary) (files : Files) (host : Host)
    (environment : Environment) (path : Option Bytes) : Call (Slot (Option BackendHandle))
  | destroy (backend : Option BackendHandle) : Call Unit
  | infer (backend : Option BackendHandle) (inputs : Option (List InputBuffer)) (count : Nat)
    (elapsed : Duration) : Call (Slot (Option ResultHandle))
  | inputCount (backend : Option BackendHandle) : Call (Slot Nat)
  | outputCount (backend : Option BackendHandle) : Call (Slot Nat)
  | modelText (backend : Option BackendHandle) : Call (Slot (Option String))
  | stats (backend : Option BackendHandle) : Call (Slot StatsView)
  | clearCache (backend : Option BackendHandle) : Call Unit
  | outputInfo (result : Option ResultHandle) (index : Nat) : Call (Slot Nat × Slot HostType)
  | outputShape (result : Option ResultHandle) (index capacity : Nat) :
    Call (Slot (List Int64) × Slot Nat)
  | copy (type : HostType) (result : Option ResultHandle) (index capacity : Nat) :
    Call (Slot (List type.Value))
  | initLog (level : Option Bytes) (json : Bool) : Call Unit

namespace Session

/-- Performs a call on the memory of the caller. -/
def perform (s : Session) {Memory : Type} : Call Memory → Memory → Reply Memory
  | .create files host path params, out => s.create files host path params out
  | .createFromConfig library files host environment path, out =>
    s.createFromConfig library files host environment path out
  | .destroy b, _ => s.destroy b
  | .infer b inputs count elapsed, out => s.infer b inputs count elapsed out
  | .inputCount b, out => s.inputCount b out
  | .outputCount b, out => s.outputCount b out
  | .modelText b, out => s.modelText b out
  | .stats b, out => s.stats b out
  | .clearCache b, _ => s.clearCache b
  | .outputInfo r index, out => s.outputInfo r index out
  | .outputShape r index capacity, (dims, rank) => s.outputShape r index dims capacity rank
  | .copy type r index capacity, memory => s.copy type.view r index memory capacity
  | .initLog level json, _ => s.initLog level json

end Session

/-- The log configuration that a level and a form stand for. -/
def logConfig (level : Option Bytes) (json : Bool) : Except Complaint LoggingConfig :=
  let format := if json then .json else LoggingConfig.default.format
  match level with
  | none => .ok { LoggingConfig.default with format }
  | some bytes => (readText "log level" bytes).map fun level => { level, format }

theorem own_of_logConfig {level : Option Bytes} {json : Bool} {c : Complaint}
    (h : logConfig level json = .error c) : c.Own := by
  cases level with
  | none => cases h
  | some bytes =>
    cases htext : readText "log level" bytes with
    | ok text =>
      rw [logConfig, htext] at h
      cases h
    | error fault =>
      rw [logConfig, htext] at h
      cases h
      exact own_of_readText (tellable_ofList rfl) htext

/-- The engine refuses what a call asks of it, and for what. The call itself is in order: what it
needs is there and can be read. -/
def Raises (s : Session) {Memory : Type} : Call Memory → Memory → EngineError → Prop
  | .create files host path params, some _, e =>
    ∃ config, (params.getD .default).config path = .ok config ∧
      Backend.setup files host config = .error e
  | .createFromConfig library files host environment (some bytes), some _, e =>
    ∃ path, readText "config path" bytes = .ok path ∧
      (BackendConfig.load library files environment path = .error e ∨
        ∃ config, BackendConfig.load library files environment path = .ok config ∧
          Backend.setup files host config = .error e)
  | .infer b inputs count elapsed, some _, e =>
    ∃ backend data, s.backend? b = some backend ∧ Session.callInputs inputs count = .ok data ∧
      (backend.infer s.device data elapsed).1 = .error e
  | .initLog level json, _, e =>
    ∃ config, logConfig level json = .ok config ∧ (s.log.install config).1 = .error e
  | _, _, _ => False

/-- The one thing that a failed call writes: the rank of a shape that is there, where only the room
for its sizes or their destination is at fault. -/
def RankTold (s : Session) {Memory : Type} : Call Memory → Memory → Memory → Prop
  | .outputShape r index capacity, (dims, some _), left =>
    ∃ output shape, s.result? r = some output ∧ output.shapes[index]? = some shape ∧
      (capacity < shape.length ∨ dims = none ∧ shape ≠ []) ∧ left = (dims, some shape.length)
  | _, _, _ => False

/-- What a call may complain about: the call itself, or what the engine raised. -/
inductive Voices (s : Session) {Memory : Type} (call : Call Memory) (memory : Memory) :
    Complaint → Prop
  | own {c : Complaint} : c.Own → Voices s call memory c
  | engine {e : EngineError} : Raises s call memory e → Voices s call memory (.engine e)

/-- How a call may end: well, with nothing new pending, or with a complaint. -/
inductive Ended (s : Session) {Memory : Type} (call : Call Memory) (memory : Memory) :
    Reply Memory → Prop
  | well {written : Memory} {after : Session} :
    after.pending = s.pending → Ended s call memory ⟨.ok, written, after⟩
  | failed {c : Complaint} {left : Memory} {after : Session} :
    Voices s call memory c → (left = memory ∨ RankTold s call memory left) →
    Ended s call memory ⟨c.status, left, after.complain c⟩

namespace Session

variable {s : Session} {Memory : Type} {call : Call Memory} {memory : Memory}

/-! ## How calls end -/

theorem ended_conclude {after : Session} (hpending : after.pending = s.pending)
    {outcome : Except Complaint Memory} (h : ∀ c, outcome = .error c → Voices s call memory c) :
    Ended s call memory (after.conclude memory outcome) := by
  cases outcome with
  | ok written => exact .well hpending
  | error c => exact .failed (h c rfl) (Or.inl rfl)

theorem ended_concludeCreation {call : Call (Slot (Option BackendHandle))}
    {out : Slot (Option BackendHandle)} {outcome : Except Complaint Backend}
    (h : ∀ c, outcome = .error c → Voices s call out c) :
    Ended s call out (s.concludeCreation out outcome) := by
  cases outcome with
  | ok b => exact .well rfl
  | error c => exact .failed (h c rfl) (Or.inl rfl)

/-- A backend cannot be set up only for what the engine says. -/
theorem exists_of_setup_eq_error {files : Files} {host : Host} {config : BackendConfig}
    {c : Complaint} (h : setup files host config = .error c) :
    ∃ e, Backend.setup files host config = .error e ∧ c = .engine e := by
  rw [setup] at h
  cases hsetup : Backend.setup files host config with
  | ok b =>
    rw [hsetup] at h
    cases h
  | error e =>
    rw [hsetup] at h
    cases h
    exact ⟨e, rfl, rfl⟩

theorem ended_create (files : Files) (host : Host) (path : Option Bytes) (params : Option Params)
    (out : Slot (Option BackendHandle)) :
    Ended s (.create files host path params) out (s.create files host path params out) := by
  apply ended_concludeCreation
  intro c h
  cases out with
  | none =>
    cases h
    exact .own (Complaint.own_ofList rfl)
  | some seen =>
    rcases bind_eq_error_iff.1 h with hpresent | ⟨-, -, h⟩
    · exact .own (own_of_requirePresent (tellable_ofList rfl) hpresent)
    · rcases bind_eq_error_iff.1 h with hconfig | ⟨config, hconfig, h⟩
      · exact .own (own_of_config hconfig)
      · obtain ⟨e, hsetup, rfl⟩ := exists_of_setup_eq_error h
        exact .engine ⟨config, hconfig, hsetup⟩

theorem ended_createFromConfig (library : SettingLibrary) (files : Files) (host : Host)
    (environment : Environment) (path : Option Bytes) (out : Slot (Option BackendHandle)) :
    Ended s (.createFromConfig library files host environment path) out
      (s.createFromConfig library files host environment path out) := by
  apply ended_concludeCreation
  intro c h
  cases path with
  | none =>
    cases h
    exact .own (Complaint.own_ofList rfl)
  | some bytes =>
    cases out with
    | none =>
      cases h
      exact .own (Complaint.own_ofList rfl)
    | some seen =>
      rcases bind_eq_error_iff.1 h with hpresent | ⟨-, -, h⟩
      · exact .own (own_of_requirePresent (tellable_ofList rfl) hpresent)
      · rcases bind_eq_error_iff.1 h with htext | ⟨text, htext, h⟩
        · exact .own (own_of_readText (tellable_ofList rfl) htext)
        · cases hload : BackendConfig.load library files environment text with
          | error e =>
            rw [hload] at h
            cases h
            exact .engine ⟨text, htext, Or.inl hload⟩
          | ok config =>
            rw [hload] at h
            obtain ⟨e, hsetup, rfl⟩ := exists_of_setup_eq_error h
            exact .engine ⟨text, htext, Or.inr ⟨config, hload, hsetup⟩⟩

theorem pending_setBackend (h : Option BackendHandle) (b : Option Backend) :
    (s.setBackend h b).pending = s.pending := by
  cases h with
  | none => rfl
  | some h => rfl

theorem ended_destroy (h : Option BackendHandle) :
    Ended s (.destroy h) () (s.destroy h) := by
  rw [destroy]
  split
  · exact .well rfl
  · exact .well (pending_setBackend h none)

theorem ended_clearCache (h : Option BackendHandle) :
    Ended s (.clearCache h) () (s.clearCache h) := by
  rw [clearCache]
  split
  · exact .failed (.own (Complaint.own_ofList rfl)) (Or.inl rfl)
  · exact .well (pending_setBackend h _)

theorem ended_infer (h : Option BackendHandle) (inputs : Option (List InputBuffer)) (count : Nat)
    (elapsed : Duration) (out : Slot (Option ResultHandle)) :
    Ended s (.infer h inputs count elapsed) out (s.infer h inputs count elapsed out) := by
  unfold infer
  split
  · next b seen hb =>
    split
    · next c hinputs => exact .failed (.own (own_of_callInputs hinputs)) (Or.inl rfl)
    · next data hinputs =>
      rcases hrun : b.infer s.device data elapsed with ⟨e | output, b', d'⟩
      · exact .failed (.engine ⟨b, data, hb, hinputs, by rw [hrun]⟩) (Or.inl rfl)
      · exact .well (pending_setBackend h _)
  · exact .failed (.own (Complaint.own_ofList rfl)) (Or.inl rfl)

/-- A question about a backend is refused only if the backend or the memory for the answer is
absent. -/
theorem ended_ask {α : Type} {call : Call (Slot α)} (h : Option BackendHandle) (out : Slot α)
    (question : Backend → α) : Ended s call out (s.ask h out question) := by
  apply ended_conclude rfl
  intro c hc
  split at hc
  · cases hc
  · cases hc
    exact .own (Complaint.own_ofList rfl)

theorem ended_outputInfo (r : Option ResultHandle) (index : Nat) (out : Slot Nat × Slot HostType) :
    Ended s (.outputInfo r index) out (s.outputInfo r index out) := by
  apply ended_conclude rfl
  intro c hc
  split at hc
  · split at hc
    · cases hc
    · cases hc
      exact .own (own_outOfRange index)
  · cases hc
    exact .own (Complaint.own_ofList rfl)

theorem ended_outputShape (r : Option ResultHandle) (index capacity : Nat)
    (dims : Slot (List Int64)) (rank : Slot Nat) : Ended s (.outputShape r index capacity)
      (dims, rank) (s.outputShape r index dims capacity rank) := by
  unfold outputShape
  split
  · next output _ hr =>
    split
    · exact .failed (.own (own_outOfRange index)) (Or.inl rfl)
    · next shape hshape =>
      -- the rank is written already
      cases hcopy : copyOut shape dims capacity with
      | ok copied => exact .well rfl
      | error c =>
        obtain ⟨hown, hfault⟩ := own_of_copyOut hcopy
        exact .failed (.own hown) (Or.inr ⟨output, shape, hr, hshape, hfault, rfl⟩)
  · exact .failed (.own (Complaint.own_ofList rfl)) (Or.inl rfl)

theorem ended_copy (type : HostType) (r : Option ResultHandle) (index capacity : Nat)
    (cells : Slot (List type.Value)) : Ended s (.copy type r index capacity) cells
      (s.copy type.view r index cells capacity) := by
  apply ended_conclude rfl
  intro c hc
  split at hc
  · cases hc
    exact .own (Complaint.own_ofList rfl)
  · exact .own (own_of_copyValues hc)

theorem initLog_eq (s : Session) (level : Option Bytes) (json : Bool) :
    s.initLog level json = match logConfig level json with
      | .error c => s.conclude () (.error c)
      | .ok config => { s with log := (s.log.install config).2 }.conclude ()
        ((s.log.install config).1.mapError .engine) :=
  rfl

theorem ended_initLog (level : Option Bytes) (json : Bool) :
    Ended s (.initLog level json) () (s.initLog level json) := by
  rw [initLog_eq]
  split
  · next c hconfig => exact .failed (.own (own_of_logConfig hconfig)) (Or.inl rfl)
  · next config hconfig =>
    refine ended_conclude ?_ ?_
    · rfl
    · intro c hc
      cases hinstall : (s.log.install config).1 with
      | ok u =>
        rw [hinstall] at hc
        cases hc
      | error e =>
        rw [hinstall] at hc
        cases hc
        exact .engine ⟨config, hconfig, hinstall⟩

/-- How every call ends. -/
theorem perform_ended (s : Session) (call : Call Memory) (memory : Memory) :
    Ended s call memory (s.perform call memory) := by
  cases call with
  | create files host path params => exact ended_create files host path params memory
  | createFromConfig library files host environment path =>
    exact ended_createFromConfig library files host environment path memory
  | destroy b => exact ended_destroy b
  | infer b inputs count elapsed => exact ended_infer b inputs count elapsed memory
  | inputCount b => exact ended_ask b memory _
  | outputCount b => exact ended_ask b memory _
  | modelText b => exact ended_ask b memory _
  | stats b => exact ended_ask b memory _
  | clearCache b => exact ended_clearCache b
  | outputInfo r index => exact ended_outputInfo r index memory
  | outputShape r index capacity => exact ended_outputShape r index capacity memory.1 memory.2
  | copy type r index capacity => exact ended_copy type r index capacity memory
  | initLog level json => exact ended_initLog level json

/-- A call that fails ends with a complaint. It tells the status and what is left pending. -/
theorem exists_of_failed (h : (s.perform call memory).status ≠ .ok) :
    ∃ c left after, Voices s call memory c ∧ (left = memory ∨ RankTold s call memory left) ∧
      s.perform call memory = ⟨c.status, left, Session.complain after c⟩ := by
  have hended := perform_ended s call memory
  generalize s.perform call memory = reply at h hended ⊢
  cases hended with
  | well hpending => exact absurd rfl h
  | failed hvoices hleft => exact ⟨_, _, _, hvoices, hleft, rfl⟩

/-- What the engine raises is what the call ends with, and the caller's memory is left alone. -/
theorem perform_of_raises {e : EngineError} (h : Raises s call memory e) :
    ∃ after : Session,
      s.perform call memory = ⟨.ofError e, memory, after.complain (.engine e)⟩ := by
  cases call with
  | create files host path params =>
    cases memory with
    | none => exact h.elim
    | some seen =>
      obtain ⟨config, hconfig, hsetup⟩ := h
      refine ⟨s, ?_⟩
      rw [perform, create, hconfig]
      change s.concludeCreation (some seen) ((Backend.setup files host config).mapError .engine) = _
      rw [hsetup]
      rfl
  | createFromConfig library files host environment path =>
    cases path with
    | none => exact h.elim
    | some bytes =>
      cases memory with
      | none => exact h.elim
      | some seen =>
        obtain ⟨path, htext, hload | ⟨config, hload, hsetup⟩⟩ := h
        · refine ⟨s, ?_⟩
          rw [perform, createFromConfig]
          simp only [htext, hload, ok_bind, requirePresent, Option.isSome_some, if_true]
          rfl
        · refine ⟨s, ?_⟩
          rw [perform, createFromConfig]
          simp only [htext, hload, ok_bind, requirePresent, Option.isSome_some, if_true]
          change s.concludeCreation (some seen)
            ((Backend.setup files host config).mapError .engine) = _
          rw [hsetup]
          rfl
  | infer b inputs count elapsed =>
    cases memory with
    | none => exact h.elim
    | some seen =>
      obtain ⟨backend, data, hb, hinputs, hrun⟩ := h
      simp only [perform, infer, hb, hinputs]
      rcases hresult : backend.infer s.device data elapsed with ⟨result, b', d'⟩
      rw [hresult] at hrun
      cases hrun
      exact ⟨_, rfl⟩
  | initLog level json =>
    obtain ⟨config, hconfig, hinstall⟩ := h
    refine ⟨{ s with log := (s.log.install config).2 }, ?_⟩
    rw [perform, initLog_eq, hconfig]
    simp only [hinstall]
    rfl
  | _ => exact h.elim

/-! ## What was pending before -/

section earlier

variable (earlier : Option Complaint)

theorem conclude_of_failed {outcome : Except Complaint Memory}
    (h : (s.conclude memory outcome).status ≠ .ok) :
    { s with pending := earlier }.conclude memory outcome = s.conclude memory outcome := by
  cases outcome with
  | ok written => exact absurd rfl h
  | error c => rfl

theorem concludeCreation_of_failed {out : Slot (Option BackendHandle)}
    {outcome : Except Complaint Backend} (h : (s.concludeCreation out outcome).status ≠ .ok) :
    { s with pending := earlier }.concludeCreation out outcome =
      s.concludeCreation out outcome := by
  cases outcome with
  | ok b => exact absurd rfl h
  | error c => rfl

theorem infer_of_failed {b : Option BackendHandle} {inputs : Option (List InputBuffer)} {count : Nat}
    {elapsed : Duration} {out : Slot (Option ResultHandle)}
    (h : (s.infer b inputs count elapsed out).status ≠ .ok) :
    { s with pending := earlier }.infer b inputs count elapsed out =
      s.infer b inputs count elapsed out := by
  have hsame : { s with pending := earlier }.backend? b = s.backend? b := rfl
  unfold infer at h ⊢
  rw [hsame]
  cases hb : s.backend? b with
  | none => rfl
  | some backend =>
    cases out with
    | none => rfl
    | some seen =>
      cases hinputs : callInputs inputs count with
      | error c => rfl
      | ok data =>
        rcases hrun : backend.infer s.device data elapsed with ⟨e | output, b', d'⟩
        · simp only [hrun]
          cases b with
          | none => rfl
          | some b => rfl
        · simp only [hb, hinputs, hrun] at h
          exact absurd rfl h

theorem outputShape_of_failed {r : Option ResultHandle} {index capacity : Nat}
    {dims : Slot (List Int64)} {rank : Slot Nat}
    (h : (s.outputShape r index dims capacity rank).status ≠ .ok) :
    { s with pending := earlier }.outputShape r index dims capacity rank =
      s.outputShape r index dims capacity rank := by
  have hsame : { s with pending := earlier }.result? r = s.result? r := rfl
  unfold outputShape at h ⊢
  rw [hsame]
  cases hr : s.result? r with
  | none => rfl
  | some output =>
    cases rank with
    | none => rfl
    | some seen =>
      simp only [hr] at h ⊢
      split at h
      · rfl
      · exact conclude_of_failed earlier h

theorem initLog_of_failed {level : Option Bytes} {json : Bool}
    (h : (s.initLog level json).status ≠ .ok) :
    { s with pending := earlier }.initLog level json = s.initLog level json := by
  rw [initLog_eq] at h ⊢
  rw [initLog_eq]
  split at h
  · rfl
  · exact conclude_of_failed earlier h

/-- What was pending before a call that fails makes no difference to how it ends and what it
leaves. -/
theorem perform_of_failed (h : (s.perform call memory).status ≠ .ok) :
    { s with pending := earlier }.perform call memory = s.perform call memory := by
  cases call with
  | create files host path params => exact concludeCreation_of_failed earlier h
  | createFromConfig library files host environment path =>
    exact concludeCreation_of_failed earlier h
  | destroy b =>
    rw [perform, destroy] at h
    split at h
    · exact absurd rfl h
    · exact absurd rfl h
  | infer b inputs count elapsed => exact infer_of_failed earlier h
  | inputCount b => exact conclude_of_failed earlier h
  | outputCount b => exact conclude_of_failed earlier h
  | modelText b => exact conclude_of_failed earlier h
  | stats b => exact conclude_of_failed earlier h
  | clearCache b =>
    rw [perform, clearCache] at h
    split at h
    · next hb =>
      have hsame : { s with pending := earlier }.backend? b = none := hb
      rw [perform, perform, clearCache, clearCache, hsame, hb]
      rfl
    · exact absurd rfl h
  | outputInfo r index => exact conclude_of_failed earlier h
  | outputShape r index capacity => exact outputShape_of_failed earlier h
  | copy type r index capacity => exact conclude_of_failed earlier h
  | initLog level json => exact initLog_of_failed earlier h

end earlier

end Session

end GraphServe.Boundary
