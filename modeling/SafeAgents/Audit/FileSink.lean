import SafeAgents.Audit.Chain
import SafeAgents.LineLog

namespace SafeAgents.Audit

open Checked HashChain LineLog

inductive TapeError where
  | corrupt (offset : Nat) (detail : String)
  | seqMismatch (expected got : Int)
  deriving DecidableEq

def TapeError.text (path : String) : TapeError → String
  | .corrupt offset detail =>
    "corrupt audit record at byte offset " ++ toString offset ++ " in " ++ pyRepr path ++ ": " ++ detail
  | .seqMismatch expected got => "seq mismatch: expected " ++ toString expected ++ ", got " ++ toString got

structure Scan where
  records : List TapeRecord
  validBytes : Nat
  torn : Bool

-- The counters a sink caches; a missing tape reads as an empty one.
structure FileAuditSink where
  seq : Int
  lastHash : String

section Sink
variable (c : Codec TapeRecord) (sha256 : String → String) (hashArgs : Json → String)

def scanFrom (records : List TapeRecord) (validBytes pos : Nat) (data : List UInt8) : Except TapeError Scan :=
  if _hdata : data = [] then .ok ⟨records,validBytes,false⟩
  else
    match data.findIdx? (· == newline) with
    | none => .ok ⟨records,validBytes,!(strip data).isEmpty⟩
    | some nl =>
      let line := strip (data.take nl)
      let next := pos + nl + 1
      if line.isEmpty then scanFrom records next next (data.drop (nl + 1))
      else
        match c.validate line with
        | .error detail => .error (.corrupt pos detail)
        | .ok record => scanFrom (records ++ [record]) next next (data.drop (nl + 1))
termination_by data.length
decreasing_by
  all_goals
    have hlength := List.length_pos_iff.mpr _hdata
    simp only [List.length_drop]
    omega

def scan (data : List UInt8) : Except TapeError Scan := scanFrom c [] 0 0 data

namespace FileAuditSink

def fresh : FileAuditSink := ⟨0,genesisPrevHash sha256⟩

def refreshFromDisk (sink : FileAuditSink) (data : List UInt8) : Except TapeError FileAuditSink := do
  let found ← scan c data
  match found.records.getLast? with
  | some last => return ⟨last.seq + 1,last.hash⟩
  | none => return sink

def resuming (data : List UInt8) : Except TapeError (FileAuditSink × List UInt8) := do
  let found ← scan c data
  let kept := if found.torn then data.take found.validBytes else data
  match found.records.getLast? with
  | some last => return (⟨last.seq + 1,last.hash⟩,kept)
  | none => return (fresh sha256,kept)

def append (sink : FileAuditSink) (record : TapeRecord) (data : List UInt8) :
    Except TapeError (FileAuditSink × List UInt8) := do
  refuseIf (record.seq ≠ sink.seq) (.seqMismatch sink.seq record.seq)
  return (⟨sink.seq + 1,record.hash⟩,data ++ line c record)

-- The process dies inside append with the first bytes of the line on disk.
def interrupted (sink : FileAuditSink) (record : TapeRecord) (kept : Nat) (data : List UInt8) :
    Except TapeError (List UInt8) := do
  refuseIf (record.seq ≠ sink.seq) (.seqMismatch sink.seq record.seq)
  return data ++ (line c record).take kept

def records (data : List UInt8) : Except TapeError (List TapeRecord) := do
  let found ← scan c data
  return found.records

def emit (sink : FileAuditSink) (ts : String) (d : Draft) (data : List UInt8) :
    Except TapeError (TapeRecord × FileAuditSink × List UInt8) := do
  let current ← sink.refreshFromDisk c data
  let record := build sha256 hashArgs current.seq current.lastHash ts d
  let (next,written) ← current.append c record data
  return (record,next,written)

def dieEmitting (sink : FileAuditSink) (ts : String) (d : Draft) (kept : Nat) (data : List UInt8) :
    Except TapeError (List UInt8) := do
  let current ← sink.refreshFromDisk c data
  current.interrupted c (build sha256 hashArgs current.seq current.lastHash ts d) kept data

end FileAuditSink

structure Shared (ι : Type) where
  tape : List UInt8 := []
  sinks : ι → Option FileAuditSink := fun _ => none
  completed : List TapeRecord := []

inductive Deed (ι : Type) where
  | construct (i : ι)
  | resume (i : ι)
  | emit (i : ι) (ts : String) (d : Draft)
  | crash (i : ι) (ts : String) (d : Draft) (kept : Nat)

variable {ι : Type} [DecidableEq ι]

def step (s : Shared ι) : Deed ι → Shared ι
  | .construct i => { s with sinks := Function.update s.sinks i (some (.fresh sha256)) }
  | .resume i =>
    match FileAuditSink.resuming c sha256 s.tape with
    | .ok (sink,kept) => { s with tape := kept, sinks := Function.update s.sinks i (some sink) }
    | .error _ => { s with sinks := Function.update s.sinks i none }
  | .emit i ts d =>
    match s.sinks i with
    | none => s
    | some sink =>
      match sink.emit c sha256 hashArgs ts d s.tape with
      | .ok (record,next,written) =>
        { tape := written, sinks := Function.update s.sinks i (some next), completed := s.completed ++ [record] }
      | .error _ => s
  | .crash i ts d kept =>
    match s.sinks i with
    | none => s
    | some sink =>
      match sink.dieEmitting c sha256 hashArgs ts d kept s.tape with
      | .ok written => { s with tape := written, sinks := Function.update s.sinks i none }
      | .error _ => { s with sinks := Function.update s.sinks i none }

def run (s : Shared ι) (deeds : List (Deed ι)) : Shared ι := deeds.foldl (step c sha256 hashArgs) s

def Settled (tape : List UInt8) : Prop := ∀ b, tape.getLast? = some b → b = newline

end Sink

section Proofs
variable {c : Codec TapeRecord} {sha256 : String → String} {hashArgs : Json → String}

theorem scanFrom_torn (hc : c.Lawful) {tail : List UInt8} (htail : Torn c tail) (records : List TapeRecord) (pos : Nat) :
    scanFrom c records pos pos tail = .ok ⟨records,pos,!tail.isEmpty⟩ := by
  rw [scanFrom]
  split
  · next hnil => simp [hnil]
  · rw [findIdx_tail (htail.oneLine hc)]
    simp only [htail.strip_isEmpty hc]

theorem scanFrom_line (hc : c.Lawful) (r : TapeRecord) (rest : List UInt8) (records : List TapeRecord) (pos : Nat) :
    scanFrom c records pos pos (line c r ++ rest) =
      scanFrom c (records ++ [r]) (pos + (line c r).length) (pos + (line c r).length) rest := by
  have hsplit : line c r ++ rest = c.dump r ++ newline :: rest := by simp [line]
  have hlength : pos + (c.dump r).length + 1 = pos + (line c r).length := by
    simp only [line,List.length_append,List.length_singleton]
    omega
  have hrest : (c.dump r ++ newline :: rest).drop ((c.dump r).length + 1) = rest := by simp
  rw [hsplit,scanFrom,dif_neg (by simp),findIdx_line (hc.oneLine r)]
  simp only [List.take_left,strip_dump hc,dump_isEmpty hc,Bool.false_eq_true,if_false,hc.validate_dump,hrest,hlength]

theorem scanFrom_lines (hc : c.Lawful) (rs : List TapeRecord) {tail : List UInt8} (htail : Torn c tail)
    (records : List TapeRecord) (pos : Nat) :
    scanFrom c records pos pos (lines c rs ++ tail) =
      .ok ⟨records ++ rs,pos + (lines c rs).length,!tail.isEmpty⟩ := by
  induction rs generalizing records pos with
  | nil => simpa using scanFrom_torn hc htail records pos
  | cons r rs ih =>
    rw [lines_cons,List.append_assoc,scanFrom_line hc,ih]
    simp [Nat.add_assoc]

theorem scan_lines (hc : c.Lawful) (rs : List TapeRecord) {tail : List UInt8} (htail : Torn c tail) :
    scan c (lines c rs ++ tail) = .ok ⟨rs,(lines c rs).length,!tail.isEmpty⟩ := by
  simpa [scan] using scanFrom_lines hc rs htail [] 0

def counters (sha256 : String → String) (rs : List TapeRecord) : FileAuditSink := ⟨rs.length,lastHash sha256 rs⟩

theorem counters_nil : counters sha256 [] = .fresh sha256 := rfl

theorem counters_last {rs : List TapeRecord} {last : TapeRecord}
    (hlinked : (links sha256).Linked 0 (genesisPrevHash sha256) rs) (hlast : rs.getLast? = some last) :
    (⟨last.seq + 1,last.hash⟩ : FileAuditSink) = counters sha256 rs := by
  obtain ⟨front,rfl⟩ := List.getLast?_eq_some_iff.mp hlast
  obtain ⟨-,hseq,-,-⟩ := Links.linked_snoc.mp hlinked
  have hcount : last.seq + 1 = ((front ++ [last]).length : Int) := by
    change last.seq = 0 + (front.length : Int) at hseq
    simp only [List.length_append,List.length_singleton]
    omega
  simp [counters,lastHash,hcount]

theorem refresh_lines (hc : c.Lawful) {rs : List TapeRecord} {tail : List UInt8} (htail : Torn c tail)
    (hlinked : (links sha256).Linked 0 (genesisPrevHash sha256) rs) {sink : FileAuditSink}
    (hsink : rs = [] → sink = .fresh sha256) :
    sink.refreshFromDisk c (lines c rs ++ tail) = .ok (counters sha256 rs) := by
  simp only [FileAuditSink.refreshFromDisk,scan_lines hc rs htail,bind,Except.bind]
  cases hlast : rs.getLast? with
  | none =>
    have hnil := List.getLast?_eq_none_iff.mp hlast
    simp only [hnil,counters_nil,hsink hnil]
    rfl
  | some last =>
    simp only [← counters_last hlinked hlast]
    rfl

theorem resuming_lines (hc : c.Lawful) {rs : List TapeRecord} {tail : List UInt8} (htail : Torn c tail)
    (hlinked : (links sha256).Linked 0 (genesisPrevHash sha256) rs) :
    FileAuditSink.resuming c sha256 (lines c rs ++ tail) = .ok (counters sha256 rs,lines c rs) := by
  have hkept : (if !tail.isEmpty then (lines c rs ++ tail).take (lines c rs).length else lines c rs ++ tail) =
      lines c rs := by
    cases tail with
    | nil => simp
    | cons b tail => simp
  simp only [FileAuditSink.resuming,scan_lines hc rs htail,bind,Except.bind,hkept]
  cases hlast : rs.getLast? with
  | none =>
    have hnil := List.getLast?_eq_none_iff.mp hlast
    simp only [hnil,counters_nil]
    rfl
  | some last =>
    simp only [← counters_last hlinked hlast]
    rfl

def nextRecord (sha256 : String → String) (hashArgs : Json → String) (rs : List TapeRecord) (ts : String) (d : Draft) :
    TapeRecord := build sha256 hashArgs rs.length (lastHash sha256 rs) ts d

theorem counters_snoc (rs : List TapeRecord) (r : TapeRecord) :
    (⟨(counters sha256 rs).seq + 1,r.hash⟩ : FileAuditSink) = counters sha256 (rs ++ [r]) := by
  simp [counters,lastHash]

variable (hashArgs) in
theorem emit_lines (hc : c.Lawful) {rs : List TapeRecord}
    (hlinked : (links sha256).Linked 0 (genesisPrevHash sha256) rs) {sink : FileAuditSink}
    (hsink : rs = [] → sink = .fresh sha256) (ts : String) (d : Draft) :
    sink.emit c sha256 hashArgs ts d (lines c rs) =
      .ok (nextRecord sha256 hashArgs rs ts d,counters sha256 (rs ++ [nextRecord sha256 hashArgs rs ts d]),
        lines c (rs ++ [nextRecord sha256 hashArgs rs ts d])) := by
  have hrefresh : sink.refreshFromDisk c (lines c rs) = .ok (counters sha256 rs) := by
    simpa using refresh_lines hc (.inl rfl) hlinked hsink
  have happend : (counters sha256 rs).append c (nextRecord sha256 hashArgs rs ts d) (lines c rs) =
      .ok (counters sha256 (rs ++ [nextRecord sha256 hashArgs rs ts d]),
        lines c (rs ++ [nextRecord sha256 hashArgs rs ts d])) := by
    refine then_ok.mpr ⟨refuseIf_pass (by simp [nextRecord,counters]),?_⟩
    rw [counters_snoc]
    simp [pure,Except.pure]
  simp only [FileAuditSink.emit,hrefresh]
  change (do
    let (next,written) ← (counters sha256 rs).append c (nextRecord sha256 hashArgs rs ts d) (lines c rs)
    return (nextRecord sha256 hashArgs rs ts d,next,written)) = _
  rw [happend]
  rfl

variable (hashArgs) in
theorem dieEmitting_lines (hc : c.Lawful) {rs : List TapeRecord}
    (hlinked : (links sha256).Linked 0 (genesisPrevHash sha256) rs) {sink : FileAuditSink}
    (hsink : rs = [] → sink = .fresh sha256) (ts : String) (d : Draft) (kept : Nat) :
    sink.dieEmitting c sha256 hashArgs ts d kept (lines c rs) =
      .ok (lines c rs ++ (line c (nextRecord sha256 hashArgs rs ts d)).take kept) := by
  have hrefresh : sink.refreshFromDisk c (lines c rs) = .ok (counters sha256 rs) := by
    simpa using refresh_lines hc (.inl rfl) hlinked hsink
  simp only [FileAuditSink.dieEmitting,hrefresh]
  exact then_ok.mpr ⟨refuseIf_pass (by simp [counters]),rfl⟩

section Runs
variable {ι : Type}

structure Holds (c : Codec TapeRecord) (sha256 : String → String) (s : Shared ι) (rs : List TapeRecord) (tail : List UInt8) :
    Prop where
  tape : s.tape = lines c rs ++ tail
  torn : Torn c tail
  linked : (links sha256).Linked 0 (genesisPrevHash sha256) rs
  completed : s.completed.Sublist rs
  sinks : rs = [] → ∀ i sink, s.sinks i = some sink → sink = .fresh sha256

variable {s : Shared ι} {rs : List TapeRecord} {tail : List UInt8}

variable [DecidableEq ι]

theorem fresh_of_update {i : ι} {slot : Option FileAuditSink} (h : ∀ i sink, s.sinks i = some sink → sink = .fresh sha256)
    (hslot : ∀ sink, slot = some sink → sink = .fresh sha256) :
    ∀ j sink, Function.update s.sinks i slot j = some sink → sink = .fresh sha256 := by
  intro j sink hj
  by_cases hij : j = i
  · subst hij
    rw [Function.update_self] at hj
    exact hslot sink hj
  · rw [Function.update_of_ne hij] at hj
    exact h j sink hj

theorem Holds.construct (h : Holds c sha256 s rs tail) (i : ι) :
    Holds c sha256 (step c sha256 hashArgs s (.construct i)) rs tail where
  tape := h.tape
  torn := h.torn
  linked := h.linked
  completed := h.completed
  sinks hnil := fresh_of_update (h.sinks hnil) fun _ hsink => (Option.some.inj hsink).symm

theorem Holds.resume (hc : c.Lawful) (h : Holds c sha256 s rs tail) (i : ι) :
    Holds c sha256 (step c sha256 hashArgs s (.resume i)) rs [] := by
  have hresuming : FileAuditSink.resuming c sha256 s.tape = .ok (counters sha256 rs,lines c rs) := by
    rw [h.tape]
    exact resuming_lines hc h.torn h.linked
  simp only [step,hresuming]
  constructor
  · simp
  · exact .inl rfl
  · exact h.linked
  · exact h.completed
  · intro hnil
    refine fresh_of_update (h.sinks hnil) fun sink hsink => ?_
    rw [← Option.some.inj hsink,hnil,counters_nil]

theorem Holds.emit (hc : c.Lawful) (h : Holds c sha256 s rs []) {i : ι} {sink : FileAuditSink} (hi : s.sinks i = some sink)
    (ts : String) (d : Draft) :
    Holds c sha256 (step c sha256 hashArgs s (.emit i ts d)) (rs ++ [nextRecord sha256 hashArgs rs ts d]) [] := by
  have hemit := emit_lines hashArgs hc h.linked (fun hnil => h.sinks hnil i sink hi) ts d
  have htape : s.tape = lines c rs := by simpa using h.tape
  simp only [step,hi,htape,hemit]
  constructor
  · simp
  · exact .inl rfl
  · exact linked_emit h.linked ts d
  · exact h.completed.append (List.Sublist.refl _)
  · intro hnil
    simp at hnil

theorem Holds.crash (hc : c.Lawful) (h : Holds c sha256 s rs []) {i : ι} {sink : FileAuditSink} (hi : s.sinks i = some sink)
    (ts : String) (d : Draft) (kept : Nat) :
    ∃ rs' tail', Holds c sha256 (step c sha256 hashArgs s (.crash i ts d kept)) rs' tail' := by
  have hdie := dieEmitting_lines hashArgs hc h.linked (fun hnil => h.sinks hnil i sink hi) ts d kept
  have htape : s.tape = lines c rs := by simpa using h.tape
  simp only [step,hi,htape,hdie]
  -- The bytes left are the whole line or a part of it without the newline.
  rcases take_line (c := c) (nextRecord sha256 hashArgs rs ts d) kept with hwhole | hpart
  · refine ⟨rs ++ [nextRecord sha256 hashArgs rs ts d],[],?_,.inl rfl,linked_emit h.linked ts d,?_,?_⟩
    · simp [hwhole]
    · exact h.completed.trans (List.sublist_append_left _ _)
    · intro hnil
      simp at hnil
  · refine ⟨rs,_,rfl,.inr ⟨_,hpart⟩,h.linked,h.completed,fun hnil => ?_⟩
    exact fresh_of_update (h.sinks hnil) fun sink hsink => by cases hsink

end Runs

end Proofs

-- model_dump_json on ASCII text; reading inverts it and refuses anything else.
def modelDumpJson (r : TapeRecord) : List UInt8 := (Json.obj r.fields).chars.map fun ch => UInt8.ofNat ch.toNat

open Classical in
noncomputable def modelValidateJson (data : List UInt8) : Except String TapeRecord :=
  if h : ∃ r, modelDumpJson r = data then .ok h.choose else .error "Invalid JSON"

end SafeAgents.Audit
