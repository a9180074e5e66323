import SafeAgents.Audit.Record
import SafeAgents.Schemas.JsonText

namespace SafeAgents

def Outcome.text : Outcome → String
  | .executed => "executed"
  | .failed => "failed"
  | .refused => "refused"
  | .denied => "denied"
  | .held => "held"
  | .permitted => "permitted"
  | .observed => "observed"
  | .expired => "expired"
  | .rejected => "rejected"
  | .flagged => "flagged"

theorem Outcome.text_injective {a b : Outcome} (h : a.text = b.text) : a = b := by
  revert h
  cases a <;> cases b <;> decide

theorem Kind.text_injective {a b : Kind} (h : a.text = b.text) : a = b := by
  revert h
  cases a <;> cases b <;> decide

def Principal.dump (p : Principal) : Json :=
  .obj [("agentId",.str p.agentId),("skill",.str p.skill),("user",.str p.user),("tier",.str p.tier.text)]

namespace Audit

-- A dict compares by its entries and prints them by key, so it is kept sorted.
structure InputAges where
  entries : List (String × String)
  sorted : (entries.map Prod.fst).Pairwise (· < ·)
  deriving DecidableEq

def InputAges.json (ages : InputAges) : Json := .obj (ages.entries.map fun e => (e.1,Json.str e.2))

structure TapeRecord where
  seq : Int
  ts : String
  principal : Principal
  tool : String
  op : String
  argsDigest : String
  decision : Kind
  reason : Option String := none
  envelopeHash : String
  approvedBy : Option String := none
  outcome : Outcome
  error : Option String := none
  seed : Option String := none
  intentId : Option String := none
  storedCallDigest : Option String := none
  resultDigest : Option String := none
  actorDigest : Option String := none
  evidenceBucket : Option String := none
  expiredAt : Option String := none
  inputsAsOf : Option InputAges := none
  horizon : Option String := none
  prevHash : String
  hash : String
  deriving DecidableEq

def receiptFields : List String :=
  ["intentId","storedCallDigest","resultDigest","actorDigest","evidenceBucket","expiredAt","inputsAsOf","horizon"]

namespace TapeRecord
variable (r : TapeRecord)

-- The hashed members by name; a receipt that is not there is left out, any other missing value is null.
def hashable : List (String × Option Json) :=
  [("actorDigest",r.actorDigest.map .str),
   ("approvedBy",some (.ofOption r.approvedBy)),
   ("argsDigest",some (.str r.argsDigest)),
   ("decision",some (.str r.decision.text)),
   ("envelopeHash",some (.str r.envelopeHash)),
   ("error",some (.ofOption r.error)),
   ("evidenceBucket",r.evidenceBucket.map .str),
   ("expiredAt",r.expiredAt.map .str),
   ("horizon",r.horizon.map .str),
   ("inputsAsOf",r.inputsAsOf.map InputAges.json),
   ("intentId",r.intentId.map .str),
   ("op",some (.str r.op)),
   ("outcome",some (.str r.outcome.text)),
   ("prevHash",some (.str r.prevHash)),
   ("principal",some r.principal.json),
   ("reason",some (.ofOption r.reason)),
   ("resultDigest",r.resultDigest.map .str),
   ("seed",some (.ofOption r.seed)),
   ("seq",some (.ofInt r.seq)),
   ("storedCallDigest",r.storedCallDigest.map .str),
   ("tool",some (.str r.tool)),
   ("ts",some (.str r.ts))]

def names : List String :=
  ["actorDigest","approvedBy","argsDigest","decision","envelopeHash","error","evidenceBucket","expiredAt","horizon",
   "inputsAsOf","intentId","op","outcome","prevHash","principal","reason","resultDigest","seed","seq","storedCallDigest",
   "tool","ts"]

theorem hashable_names : r.hashable.map Prod.fst = names := rfl

theorem names_sorted : names.Pairwise (· < ·) := by decide

def canonical : String := (Json.obj (Json.dropAbsent r.hashable)).dumps

-- model_dump: every field of the schema in its order, null where it is None.
def fields : List (String × Json) :=
  [("seq",.ofInt r.seq),
   ("ts",.str r.ts),
   ("principal",r.principal.dump),
   ("tool",.str r.tool),
   ("op",.str r.op),
   ("argsDigest",.str r.argsDigest),
   ("decision",.str r.decision.text),
   ("reason",.ofOption r.reason),
   ("envelopeHash",.str r.envelopeHash),
   ("approvedBy",.ofOption r.approvedBy),
   ("outcome",.str r.outcome.text),
   ("error",.ofOption r.error),
   ("seed",.ofOption r.seed),
   ("intentId",.ofOption r.intentId),
   ("storedCallDigest",.ofOption r.storedCallDigest),
   ("resultDigest",.ofOption r.resultDigest),
   ("actorDigest",.ofOption r.actorDigest),
   ("evidenceBucket",.ofOption r.evidenceBucket),
   ("expiredAt",.ofOption r.expiredAt),
   ("inputsAsOf",(r.inputsAsOf.map InputAges.json).getD .null),
   ("horizon",.ofOption r.horizon),
   ("prevHash",.str r.prevHash),
   ("hash",.str r.hash)]

structure Carries (members : List (String × Json)) (r : TapeRecord) : Prop where
  once : (members.map Prod.fst).Nodup
  known : ∀ m ∈ members, m.1 ∈ r.fields.map Prod.fst
  read : ∀ f ∈ r.fields, members.lookup f.1 = some f.2 ∨ (f.2 = .null ∧ members.lookup f.1 = none)

end TapeRecord

theorem InputAges.json_wellFormed (ages : InputAges) : ages.json.WellFormed := Json.wellFormed_strMembers ages.entries

theorem InputAges.json_injective {a b : InputAges} (h : a.json = b.json) : a = b := by
  have hentries : a.entries = b.entries := by
    have hmapped : a.entries.map (fun e => (e.1,Json.str e.2)) = b.entries.map (fun e => (e.1,Json.str e.2)) := by
      simpa [InputAges.json] using h
    apply List.map_injective_iff.mpr _ hmapped
    rintro ⟨name,at_⟩ ⟨name',at_'⟩ heq
    simpa using heq
  cases a
  cases b
  simp_all

namespace TapeRecord
variable {r r' : TapeRecord}

theorem fields_names : (r.fields.map Prod.fst) =
    ["seq","ts","principal","tool","op","argsDigest","decision","reason","envelopeHash","approvedBy","outcome","error","seed",
     "intentId","storedCallDigest","resultDigest","actorDigest","evidenceBucket","expiredAt","inputsAsOf","horizon","prevHash",
     "hash"] := rfl

theorem Carries.null {members : List (String × Json)} {name : String} (h : r.Carries members) (hname : name ∈ receiptFields)
    (habsent : members.lookup name = none) : r.Carries ((name,.null) :: members) := by
  have hnew : name ∉ members.map Prod.fst := by
    intro hmem
    obtain ⟨m,hm,rfl⟩ := List.mem_map.mp hmem
    rw [List.lookup_eq_none_iff] at habsent
    simpa using habsent m hm
  constructor
  · exact List.nodup_cons.mpr ⟨hnew,h.once⟩
  · intro m hm
    rcases List.mem_cons.mp hm with rfl | hm
    · rw [fields_names]
      revert hname
      simp only [receiptFields,List.mem_cons,List.not_mem_nil,or_false]
      rintro (rfl | rfl | rfl | rfl | rfl | rfl | rfl | rfl) <;> decide
    · exact h.known m hm
  · intro f hf
    by_cases hsame : f.1 = name
    · rcases h.read f hf with hread | ⟨hnull,-⟩
      · rw [hsame,habsent] at hread
        cases hread
      · left
        rw [hsame,hnull]
        simp
    · have hother : (f.1 == name) = false := by simpa using hsame
      have hlookup : ((name,Json.null) :: members).lookup f.1 = members.lookup f.1 := by rw [List.lookup_cons,hother]
      rw [hlookup]
      exact h.read f hf

theorem hashable_wellFormed : ∀ f ∈ r.hashable, ∀ value, f.2 = some value → value.WellFormed := by
  have hstr : ∀ {o : Option String} {value : Json}, o.map Json.str = some value → value.WellFormed := by
    intro o value h
    obtain ⟨text,-,rfl⟩ := Option.map_eq_some_iff.mp h
    exact Json.wellFormed_str text
  simp only [hashable,List.forall_mem_cons,List.not_mem_nil,false_implies,implies_true,and_true,Option.some.injEq,
    forall_eq']
  refine ⟨fun _ => hstr,Json.wellFormed_ofOption _,Json.wellFormed_str _,Json.wellFormed_str _,Json.wellFormed_str _,
    Json.wellFormed_ofOption _,fun _ => hstr,fun _ => hstr,fun _ => hstr,?_,fun _ => hstr,Json.wellFormed_str _,
    Json.wellFormed_str _,Json.wellFormed_str _,Principal.json_wellFormed _,Json.wellFormed_ofOption _,fun _ => hstr,
    Json.wellFormed_ofOption _,Json.wellFormed_ofInt _,fun _ => hstr,Json.wellFormed_str _,Json.wellFormed_str _⟩
  intro value h
  obtain ⟨ages,-,rfl⟩ := Option.map_eq_some_iff.mp h
  exact ages.json_wellFormed

theorem canonical_ne_empty (r : TapeRecord) : r.canonical ≠ "" := by
  intro h
  have hlength := congrArg (fun text : String => text.toList.length) h
  simp [canonical,Json.dumps,Json.chars] at hlength

theorem hashable_injective (h : r.hashable = r'.hashable) (hhash : r.hash = r'.hash) : r = r' := by
  have hstr : ∀ {a b : Option String}, a.map Json.str = b.map Json.str → a = b := by
    intro a b hab
    exact Option.map_injective (fun x y hxy => by simpa using hxy) hab
  have hages : ∀ {a b : Option InputAges}, a.map InputAges.json = b.map InputAges.json → a = b := by
    intro a b hab
    exact Option.map_injective (fun x y hxy => InputAges.json_injective hxy) hab
  simp only [hashable,List.cons.injEq,Prod.mk.injEq,true_and,and_true,Option.some.injEq,Json.str.injEq] at h
  obtain ⟨hactor,happroved,hargs,hdecision,henvelope,herror,hevidence,hexpired,hhorizon,hinputs,hintent,hop,houtcome,hprev,
    hprincipal,hreason,hresult,hseed,hseq,hstored,htool,hts⟩ := h
  cases r
  cases r'
  rw [mk.injEq]
  exact ⟨Json.ofInt_injective hseq,hts,Principal.json_injective hprincipal,htool,hop,hargs,Kind.text_injective hdecision,
    Json.ofOption_injective hreason,henvelope,Json.ofOption_injective happroved,Outcome.text_injective houtcome,
    Json.ofOption_injective herror,Json.ofOption_injective hseed,hstr hintent,hstr hstored,hstr hresult,hstr hactor,
    hstr hevidence,hstr hexpired,hages hinputs,hstr hhorizon,hprev,hhash⟩

theorem canonical_injective (h : r.canonical = r'.canonical) (hhash : r.hash = r'.hash) : r = r' := by
  have hnodup : names.Nodup := by decide
  have hsame : r.hashable = r'.hashable :=
    Json.dumps_dropAbsent_injective (by rw [hashable_names,hashable_names]) (by rw [hashable_names]; exact hnodup)
      hashable_wellFormed hashable_wellFormed h
  exact hashable_injective hsame hhash

end TapeRecord

end Audit

end SafeAgents
