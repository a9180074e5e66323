import SafeAgents.Runtime.Harness
import SafeAgents.Schemas.JsonParse
import SafeAgents.Gateway.JsonHook

open Lexical SafeAgents.Runtime SafeAgents.Channels

namespace SafeAgents

namespace Gateway

abbrev Bytes := List UInt8

def bytesOf (s : String) : Bytes := s.toList.map fun c => UInt8.ofNat c.toNat

def eventMouthCode : String := "tool-event"

def maxEventBodyBytes : Nat := 4096

def decisionKeys : List PyStr :=
  ["harness","tool_class","locality","subject_digest","input_digest","call_digest"].map PyStr.ofString

inductive Cause where
  | badMethod | tooLarge | badBody | badField
  deriving DecidableEq

def Cause.text : Cause → String
  | .badMethod => "bad-method"
  | .tooLarge => "too-large"
  | .badBody => "bad-body"
  | .badField => "bad-field"

inductive Fault where
  | malformed (cause : Cause)
  | escaped (e : Exn)

def recursionError : Exn := .exception "maximum recursion depth exceeded"

structure Message where
  type : String := "http.request"
  body : Bytes := []
  moreBody : Bool := false

structure HttpScope where
  method : String
  headers : List (Bytes × Bytes) := []

section ContentLength

def isSpaceByte (b : UInt8) : Bool := b = 32 || 9 ≤ b && b ≤ 13

def isDigitByte (b : UInt8) : Bool := 48 ≤ b && b ≤ 57

def stripBytes (l : Bytes) : Bytes := ((l.dropWhile isSpaceByte).reverse.dropWhile isSpaceByte).reverse

def intMaxStrDigits : Nat := 4300

def unsignedOf (l : Bytes) : Option Nat :=
  let parts := l.splitOn 95
  if parts.all (fun part => !part.isEmpty && part.all isDigitByte) && decide (parts.flatten.length ≤ intMaxStrDigits) then
    some (parts.flatten.foldl (fun n b => 10 * n + (b.toNat - 48)) 0)
  else none

-- int() of a header's bytes; it raises on anything else.
def intOfBytes (l : Bytes) : Option Int :=
  match stripBytes l with
  | 43 :: digits => (unsignedOf digits).map Int.ofNat
  | 45 :: digits => (unsignedOf digits).map fun n => -Int.ofNat n
  | digits => (unsignedOf digits).map Int.ofNat

def lowerByte (b : UInt8) : UInt8 := if 65 ≤ b ∧ b ≤ 90 then b + 32 else b

def checkDeclared (maxBody : Nat) : List (Bytes × Bytes) → Except Cause Unit
  | [] => .ok ()
  | (name,value) :: headers =>
    if name.map lowerByte = bytesOf "content-length" then
      match intOfBytes value with
      | none => .error .tooLarge
      | some declared => if declared > maxBody then .error .tooLarge else checkDeclared maxBody headers
    else checkDeclared maxBody headers

end ContentLength

section Reading

structure Reading where
  chunks : List Bytes := []
  size : Nat := 0

def Reading.kept (r : Reading) : Bytes := r.chunks.flatten

def receiveOne (maxBody : Nat) (r : Reading) (message : Message) : Except Cause Reading :=
  if message.type ≠ "http.request" then .error .badBody
  else if r.size + message.body.length > maxBody then .error .tooLarge
  else .ok ⟨r.chunks ++ [message.body],r.size + message.body.length⟩

-- A request that ends before its body is a disconnect.
def receiveAll (maxBody : Nat) : Reading → List Message → Except Cause Bytes
  | _, [] => .error .badBody
  | r, message :: messages =>
    match receiveOne maxBody r message with
    | .error cause => .error cause
    | .ok r' => if message.moreBody then receiveAll maxBody r' messages else .ok r'.kept

def readings (maxBody : Nat) : Reading → List Message → List Reading
  | r, [] => [r]
  | r, message :: messages =>
    r :: match receiveOne maxBody r message with
      | .error _ => []
      | .ok r' => if message.moreBody then readings maxBody r' messages else [r']

def readBody (maxBody : Nat) (scope : HttpScope) (messages : List Message) : Except Cause Bytes :=
  match checkDeclared maxBody scope.headers with
  | .error cause => .error cause
  | .ok _ => receiveAll maxBody {} messages

end Reading

def noDuplicateKeys (pairs : List (PyStr × PyValue)) : Except Cause PyValue :=
  if (pairs.map Prod.fst).Nodup then .ok (.obj pairs) else .error .badBody

-- A str whose text the vocabularies are over; no other value is one.
def textOf : Option PyValue → Option String
  | some (.str s) => s.encode
  | _ => none

def reportOf (request : List (PyStr × PyValue)) : Option DecisionReport := do
  let harness ← textOf (request.lookup (.ofString "harness"))
  let toolClass ← textOf (request.lookup (.ofString "tool_class"))
  let locality ← textOf (request.lookup (.ofString "locality"))
  let subjectDigest ← textOf (request.lookup (.ofString "subject_digest"))
  let inputDigest ← textOf (request.lookup (.ofString "input_digest"))
  let callDigest ← textOf (request.lookup (.ofString "call_digest"))
  return { mouth := eventMouthCode, harness, toolClass, locality, subjectDigest, inputDigest, callDigest }

def sameKeys (keys keys' : List PyStr) : Prop := (∀ k ∈ keys, k ∈ keys') ∧ ∀ k ∈ keys', k ∈ keys

instance (keys keys' : List PyStr) : Decidable (sameKeys keys keys') := inferInstanceAs (Decidable (_ ∧ _))

section Answers

def Answer.text : Answer → String
  | .permit => "permit"
  | .refuse => "refuse"

def refusedSentence : String :=
  "Refused by policy. Do not attempt the same action another way. Tell the user " ++
    "what was refused, and continue with any part of the task this does not affect."

def heldSentence (intentId : String) : String :=
  "Held for approval by policy (intent " ++ intentId ++ "). Do not attempt the same " ++
    "action another way. Tell the user it is waiting for approval; if it is " ++
    "approved, the same call will be allowed once."

def decisionText (decision : HarnessDecision) : Option String :=
  match decision.answer with
  | .permit => none
  | .refuse =>
    match decision.intentId with
    | some intentId => some (heldSentence intentId ++ " Reason: " ++ decision.reason)
    | none => some (refusedSentence ++ " Reason: " ++ decision.reason)

def answerJson (decision : HarnessDecision) : Json :=
  .obj [("answer",.str (Answer.text decision.answer)),("reason",.str decision.reason),("intent_id",.ofOption decision.intentId),
    ("text",.ofOption (decisionText decision))]

def answerBody (decision : HarnessDecision) : String := String.ofList (Json.printed [' '] (answerJson decision))

inductive Sent where
  | start (status : Nat) (headers : List (String × String))
  | body (text : String)

def respond (status : Nat) (text : String) : List Sent :=
  [.start status [("content-type","application/json"),("content-length",toString text.length)],.body text]

end Answers

inductive Outcome where
  | returned (decision : HarnessDecision)
  | other
  | raised (e : Exn)

structure EventApp where
  decide : DecisionReport → Outcome
  refuseDecision : String → Outcome
  maxBody : Nat := maxEventBodyBytes
  decode : Bytes → Option PyStr
  interpreter : Interpreter

namespace EventApp

variable (app : EventApp)

def jsonObject (body : Bytes) : Except Fault (List (PyStr × PyValue)) :=
  match app.decode body with
  | none => .error (.malformed .badBody)
  | some text =>
    match JsonHook.loads app.interpreter noDuplicateKeys text with
    | .error (.hook cause) => .error (.malformed cause)
    | .error .malformed => .error (.malformed .badBody)
    | .error .recursion => .error (.escaped recursionError)
    | .ok (.obj members) => .ok members
    | .ok _ => .error (.malformed .badBody)

def parseDecisionRequest (body : Bytes) : Except Fault DecisionReport := do
  let request ← app.jsonObject body
  if ¬ sameKeys (request.map Prod.fst) decisionKeys then .error (.malformed .badBody)
  else
    match reportOf request with
    | none => .error (.malformed .badField)
    | some report =>
      match validateDecisionRequest report with
      | .error _ => .error (.malformed .badField)
      | .ok _ => .ok report

def requested (scope : HttpScope) (messages : List Message) : Except Fault DecisionReport :=
  if scope.method ≠ "POST" then .error (.malformed .badMethod)
  else
    match readBody app.maxBody scope messages with
    | .error cause => .error (.malformed cause)
    | .ok body => app.parseDecisionRequest body

def refuseMalformed (cause : Cause) : Except Exn HarnessDecision :=
  match app.refuseDecision cause.text with
  | .returned decision => if decision.answer = .refuse then .ok decision else .ok (refused malformedReason)
  | .other => .ok (refused malformedReason)
  | .raised e => if e.isException then .ok (refused malformedReason) else .error e

def decided (report : DecisionReport) : Except Exn HarnessDecision :=
  match app.decide report with
  | .returned decision => .ok decision
  | .other => .ok (refused faultReason)
  | .raised e => if e.isException then .ok (refused faultReason) else .error e

def serveDecision (scope : HttpScope) (messages : List Message) : Except Exn (List Sent) :=
  match app.requested scope messages with
  | .error (.escaped e) => .error e
  | .error (.malformed cause) => (app.refuseMalformed cause).map fun decision => respond 200 (answerBody decision)
  | .ok report => (app.decided report).map fun decision => respond 200 (answerBody decision)

end EventApp

section Bounded
variable {maxBody : Nat} {r r' : Reading} {messages : List Message}

structure Reading.Within (maxBody : Nat) (r : Reading) : Prop where
  counted : r.size = r.kept.length
  bounded : r.size ≤ maxBody

theorem receiveOne_within (hr : r.Within maxBody) {message : Message} (h : receiveOne maxBody r message = .ok r') :
    r'.Within maxBody := by
  unfold receiveOne at h
  split at h
  · cases h
  · split at h
    · cases h
    · rename_i hbound
      cases h
      refine ⟨?_,Nat.le_of_not_lt hbound⟩
      simp only [Reading.kept,List.flatten_append,List.flatten_singleton,List.length_append]
      rw [hr.counted,Reading.kept]

theorem readings_within (hr : r.Within maxBody) : ∀ held ∈ readings maxBody r messages, held.Within maxBody := by
  induction messages generalizing r with
  | nil =>
    intro held hheld
    exact List.mem_singleton.mp hheld ▸ hr
  | cons message messages ih =>
    intro held hheld
    rcases List.mem_cons.mp hheld with rfl | hheld
    · exact hr
    · cases hreceive : receiveOne maxBody r message with
      | error cause =>
        rw [hreceive] at hheld
        cases hheld
      | ok next =>
        have hnext := receiveOne_within hr hreceive
        rw [hreceive] at hheld
        dsimp only at hheld
        split at hheld
        · exact ih hnext held hheld
        · exact List.mem_singleton.mp hheld ▸ hnext

theorem receiveAll_le (hr : r.Within maxBody) {body : Bytes} (h : receiveAll maxBody r messages = .ok body) : body.length ≤ maxBody := by
  induction messages generalizing r with
  | nil => cases h
  | cons message messages ih =>
    rw [receiveAll] at h
    cases hreceive : receiveOne maxBody r message with
    | error cause =>
      rw [hreceive] at h
      cases h
    | ok next =>
      have hnext := receiveOne_within hr hreceive
      rw [hreceive] at h
      dsimp only at h
      split at h
      · exact ih hnext h
      · cases h
        exact hnext.counted ▸ hnext.bounded

theorem fresh_within (maxBody : Nat) : Reading.Within maxBody {} := ⟨rfl,Nat.zero_le _⟩

theorem readBody_le {scope : HttpScope} {body : Bytes} (h : readBody maxBody scope messages = .ok body) : body.length ≤ maxBody := by
  unfold readBody at h
  split at h
  · cases h
  · exact receiveAll_le (fresh_within maxBody) h

end Bounded

structure Carries (app : EventApp) (body : Bytes) (report : DecisionReport) : Prop where
  object : ∃ text members, app.decode body = some text ∧
    JsonHook.loads app.interpreter (JsonHook.keepMembers Cause) text = .ok (.obj members) ∧
    (members.map Prod.fst).Perm decisionKeys ∧ reportOf members = some report
  valid : ∃ request, validateDecisionRequest report = .ok request

structure Permitted (app : EventApp) (scope : HttpScope) (messages : List Message) (decision : HarnessDecision) : Prop where
  method : scope.method = "POST"
  carried : ∃ body report, readBody app.maxBody scope messages = .ok body ∧ body.length ≤ app.maxBody ∧ Carries app body report ∧
    app.decide report = .returned decision

structure Answered (app : EventApp) (scope : HttpScope) (messages : List Message) : Prop where
  answer : ∃ decision, app.serveDecision scope messages = .ok (respond 200 (answerBody decision)) ∧
    (decision.answer = .permit → Permitted app scope messages decision)
  kept : ∀ r ∈ readings app.maxBody {} messages, r.kept.length ≤ app.maxBody

def Outcome.Escapes : Outcome → Prop
  | .raised e => e.isException = false
  | _ => False

def TooDeep (app : EventApp) (scope : HttpScope) (messages : List Message) : Prop :=
  scope.method = "POST" ∧ ∃ body text, readBody app.maxBody scope messages = .ok body ∧ app.decode body = some text ∧
    JsonHook.loads app.interpreter noDuplicateKeys text = .error .recursion

section Parsed
variable {app : EventApp} {body : Bytes} {scope : HttpScope} {messages : List Message}

theorem noDuplicateKeys_ok {pairs : List (PyStr × PyValue)} {value : PyValue} (h : noDuplicateKeys pairs = .ok value) :
    value = .obj pairs ∧ (pairs.map Prod.fst).Nodup := by
  unfold noDuplicateKeys at h
  split at h
  · cases h
    exact ⟨rfl,‹_›⟩
  · cases h

theorem jsonObject_ok {members : List (PyStr × PyValue)} (h : app.jsonObject body = .ok members) :
    ∃ text, app.decode body = some text ∧ JsonHook.loads app.interpreter (JsonHook.keepMembers Cause) text = .ok (.obj members) ∧
      (members.map Prod.fst).Nodup := by
  unfold EventApp.jsonObject at h
  split at h
  · cases h
  next text htext =>
    split at h
    case h_4 members' hloads =>
      cases h
      obtain ⟨pairs,hpairs⟩ := JsonHook.loads_obj hloads
      obtain ⟨hsame,hnodup⟩ := noDuplicateKeys_ok hpairs
      cases hsame
      exact ⟨text,htext,JsonHook.loads_kept (fun _ _ hvalue => (noDuplicateKeys_ok hvalue).1) hloads,hnodup⟩
    all_goals cases h

theorem decisionKeys_nodup : decisionKeys.Nodup := by decide

theorem parseDecisionRequest_ok {report : DecisionReport} (h : app.parseDecisionRequest body = .ok report) : Carries app body report := by
  obtain ⟨members,hmembers,h⟩ := Checked.bind_ok.mp h
  obtain ⟨text,htext,hloads,hnodup⟩ := jsonObject_ok hmembers
  split at h
  · cases h
  next hkeys =>
    obtain ⟨hsub,hsub'⟩ := not_not.mp hkeys
    have hperm : (members.map Prod.fst).Perm decisionKeys :=
      (List.perm_ext_iff_of_nodup hnodup decisionKeys_nodup).mpr fun k => ⟨hsub k,hsub' k⟩
    split at h
    · cases h
    next report' hreport =>
      split at h
      · cases h
      next request hrequest =>
        cases h
        exact ⟨⟨text,members,htext,hloads,hperm,hreport⟩,request,hrequest⟩

theorem jsonObject_escaped {e : Exn} : app.jsonObject body = .error (.escaped e) ↔
    e = recursionError ∧ ∃ text, app.decode body = some text ∧ JsonHook.loads app.interpreter noDuplicateKeys text = .error .recursion := by
  unfold EventApp.jsonObject
  cases hdecode : app.decode body with
  | none => simp
  | some text =>
    cases hloads : JsonHook.loads app.interpreter noDuplicateKeys text with
    | error e' => cases e' <;> simp [hloads,eq_comm]
    | ok value => cases value <;> simp [hloads]

theorem parseDecisionRequest_escaped {e : Exn} : app.parseDecisionRequest body = .error (.escaped e) ↔
    e = recursionError ∧ ∃ text, app.decode body = some text ∧ JsonHook.loads app.interpreter noDuplicateKeys text = .error .recursion := by
  rw [← jsonObject_escaped,EventApp.parseDecisionRequest,Checked.bind_error]
  refine or_iff_left ?_
  rintro ⟨members,-,h⟩
  split at h
  · cases h
  · split at h
    · cases h
    · split at h <;> cases h

theorem requested_escaped {e : Exn} : app.requested scope messages = .error (.escaped e) ↔
    e = recursionError ∧ TooDeep app scope messages := by
  unfold EventApp.requested TooDeep
  by_cases hmethod : scope.method = "POST"
  · cases hbody : readBody app.maxBody scope messages with
    | error cause => simp [hmethod]
    | ok body =>
      rw [if_neg (not_not.mpr hmethod)]
      simp [parseDecisionRequest_escaped,hmethod]
  · simp [hmethod]

theorem requested_deep (h : TooDeep app scope messages) : app.requested scope messages = .error (.escaped recursionError) :=
  requested_escaped.mpr ⟨rfl,h⟩

theorem requested_ok {report : DecisionReport} (h : app.requested scope messages = .ok report) :
    scope.method = "POST" ∧ ∃ body, readBody app.maxBody scope messages = .ok body ∧ Carries app body report := by
  unfold EventApp.requested at h
  split at h
  · cases h
  next hmethod =>
    split at h
    · cases h
    next body hbody => exact ⟨not_not.mp hmethod,body,hbody,parseDecisionRequest_ok h⟩

end Parsed

section Runtime
variable {app : EventApp}

theorem refuseMalformed_ok {cause : Cause} (h : ¬ (app.refuseDecision cause.text).Escapes) :
    ∃ decision, app.refuseMalformed cause = .ok decision ∧ decision.answer = .refuse := by
  unfold EventApp.refuseMalformed
  cases hout : app.refuseDecision cause.text with
  | returned decision =>
    by_cases hrefuse : decision.answer = .refuse
    · exact ⟨decision,if_pos hrefuse,hrefuse⟩
    · exact ⟨_,if_neg hrefuse,rfl⟩
  | other => exact ⟨_,rfl,rfl⟩
  | raised e =>
    rw [hout] at h
    exact ⟨_,if_pos (Bool.not_eq_false _ ▸ h),rfl⟩

theorem refuseMalformed_error {cause : Cause} (h : (app.refuseDecision cause.text).Escapes) : ∃ e, app.refuseMalformed cause = .error e := by
  unfold EventApp.refuseMalformed
  cases hout : app.refuseDecision cause.text with
  | returned decision =>
    rw [hout] at h
    exact h.elim
  | other =>
    rw [hout] at h
    exact h.elim
  | raised e =>
    rw [hout] at h
    exact ⟨e,if_neg (Bool.eq_false_iff.mp h)⟩

theorem decided_ok {report : DecisionReport} (h : ¬ (app.decide report).Escapes) :
    ∃ decision, app.decided report = .ok decision ∧ (decision.answer = .permit → app.decide report = .returned decision) := by
  unfold EventApp.decided
  cases hout : app.decide report with
  | returned decision => exact ⟨decision,rfl,fun _ => rfl⟩
  | other =>
    refine ⟨_,rfl,fun hpermit => ?_⟩
    cases hpermit
  | raised e =>
    rw [hout] at h
    refine ⟨_,if_pos (Bool.not_eq_false _ ▸ h),fun hpermit => ?_⟩
    cases hpermit

theorem decided_error {report : DecisionReport} (h : (app.decide report).Escapes) : ∃ e, app.decided report = .error e := by
  unfold EventApp.decided
  cases hout : app.decide report with
  | returned decision =>
    rw [hout] at h
    exact h.elim
  | other =>
    rw [hout] at h
    exact h.elim
  | raised e =>
    rw [hout] at h
    exact ⟨e,if_neg (Bool.eq_false_iff.mp h)⟩

end Runtime

structure Quiet (app : EventApp) (scope : HttpScope) (messages : List Message) : Prop where
  decide : ∀ report, app.requested scope messages = .ok report → ¬ (app.decide report).Escapes
  refuse : ∀ cause, app.requested scope messages = .error (.malformed cause) → ¬ (app.refuseDecision cause.text).Escapes

theorem mouth_answers_iff (app : EventApp) (scope : HttpScope) (messages : List Message) :
    Answered app scope messages ↔ ¬ TooDeep app scope messages ∧ Quiet app scope messages := by
  constructor
  · rintro ⟨⟨decision,hserve,-⟩,-⟩
    unfold EventApp.serveDecision at hserve
    refine ⟨fun hdeep => ?_,fun report hreport hescapes => ?_,fun cause hcause hescapes => ?_⟩
    · rw [requested_deep hdeep] at hserve
      cases hserve
    · obtain ⟨e,he⟩ := decided_error hescapes
      rw [hreport] at hserve
      simp only [he,Except.map] at hserve
      cases hserve
    · obtain ⟨e,he⟩ := refuseMalformed_error hescapes
      rw [hcause] at hserve
      simp only [he,Except.map] at hserve
      cases hserve
  · rintro ⟨hshallow,hquiet⟩
    have hkept : ∀ r ∈ readings app.maxBody {} messages, r.kept.length ≤ app.maxBody := fun r hr => by
      have hwithin := readings_within (fresh_within app.maxBody) r hr
      exact hwithin.counted ▸ hwithin.bounded
    refine ⟨?_,hkept⟩
    unfold EventApp.serveDecision
    cases hrequested : app.requested scope messages with
    | error fault =>
      cases fault with
      | malformed cause =>
        obtain ⟨decision,hdecision,hrefuse⟩ := refuseMalformed_ok (hquiet.refuse cause hrequested)
        refine ⟨decision,by simp only [hdecision,Except.map],fun hpermit => ?_⟩
        rw [hrefuse] at hpermit
        cases hpermit
      | escaped e => exact absurd (requested_escaped.mp hrequested).2 hshallow
    | ok report =>
      obtain ⟨decision,hdecision,hpermitted⟩ := decided_ok (hquiet.decide report hrequested)
      obtain ⟨hmethod,body,hbody,hcarries⟩ := requested_ok hrequested
      exact ⟨decision,by simp only [hdecision,Except.map],fun hpermit =>
        ⟨hmethod,body,report,hbody,readBody_le hbody,hcarries,hpermitted hpermit⟩⟩

def plainMouth : EventApp where
  decide := fun _ => .returned (refused faultReason)
  refuseDecision := fun _ => .returned (refused malformedReason (some .deny) (some .denied))
  decode := fun body => some (body.map UInt8.toNat)
  interpreter := ⟨1000,fun _ => true⟩

def bracketsMessage : Message where
  body := List.replicate 1001 91

theorem readBody_single {maxBody : Nat} {body : Bytes} (h : body.length ≤ maxBody) (method : String) :
    readBody maxBody { method } [{ body }] = .ok body := by
  simp [readBody,checkDeclared,receiveAll,receiveOne,Reading.kept,Nat.not_lt.mpr h]

theorem brackets_unanswered : bracketsMessage.body.length ≤ maxEventBodyBytes ∧ ¬ Answered plainMouth { method := "POST" } [bracketsMessage] := by
  have hlength : bracketsMessage.body.length = 1001 := List.length_replicate
  have hbound : bracketsMessage.body.length ≤ maxEventBodyBytes := by
    rw [hlength,maxEventBodyBytes]
    omega
  have hread : readBody plainMouth.maxBody { method := "POST" } [bracketsMessage] = .ok (List.replicate 1001 91) :=
    readBody_single hbound "POST"
  have hdecode : plainMouth.decode (List.replicate 1001 91) = some (List.replicate 1001 91) := congrArg some List.map_replicate
  refine ⟨hbound,?_⟩
  rintro ⟨⟨decision,hserve,-⟩,-⟩
  rw [EventApp.serveDecision,requested_deep ⟨rfl,_,_,hread,hdecode,JsonHook.loads_brackets plainMouth.interpreter noDuplicateKeys⟩] at hserve
  cases hserve

end Gateway

end SafeAgents
