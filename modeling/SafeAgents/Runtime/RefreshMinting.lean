import SafeAgents.Runtime.RefreshChain
import Mathlib.Tactic.Linarith

namespace SafeAgents

open Interleaving Wire

namespace Runtime.TokenChain

section Minting
variable {π : Type}

def Granted (payload : Json) (accessToken : String) (seconds : Int) : Prop :=
  payload.get? "access_token" = some (.str accessToken) ∧ expiresIn payload = some seconds

def cacheDuty : Duty (RefreshOp π) RefreshOp.Ret CredentialError where
  owes own o := ∀ self leaf accessToken lifetime, o = .remember self leaf accessToken lifetime →
    ∃ body payload t seconds, (⟨.read body,.ok (payload,t)⟩ : RefreshSeen π) ∈ own ∧ Granted payload accessToken seconds ∧
      lifetime = (seconds : ℚ) - expirySkewSeconds
  stays earlier own o h := by
    intro self leaf accessToken lifetime ho
    obtain ⟨body,payload,t,seconds,hmem,hgranted⟩ := h self leaf accessToken lifetime ho
    exact ⟨body,payload,t,seconds,List.mem_append_right _ hmem,hgranted⟩

theorem grantOf_ok {request : TokenRequest} {payload : Json} {grant : TokenGrant} (h : grantOf request payload = .ok grant) :
    payload.get? "access_token" = some (.str grant.accessToken) ∧ grant.expiresIn = expiresIn payload := by
  unfold grantOf at h
  split at h
  · split at h
    · rename_i accessToken haccess
      split at h
      · cases h
      · cases h
        exact ⟨haccess,rfl⟩
    · cases h
  · cases h

theorem tells_fetcher {request : TokenRequest} :
    Tells (fun _ _ => True) cacheDuty.owes (fun own r => ∀ grant, r = .ok grant → ∃ body payload t,
      (⟨.read body,.ok (payload,t)⟩ : RefreshSeen π) ∈ own ∧
      payload.get? "access_token" = some (.str grant.accessToken) ∧ grant.expiresIn = expiresIn payload)
      (urllibTokenFetcher request) := by
  have hposted : Minds cacheDuty (tryCatch (perform (.urlopen request)) fun e => throw (exchangeFailure request.tokenUrl e) :
      Minting π Json) := by
    refine Minds.tryCatch (minds_call ?_) fun e => minds_throw
    intro self leaf accessToken lifetime ho
    cases ho
  refine Tells.bind hposted (fun posted body _ => ?_) fun own e _ grant hgrant => by cases hgrant
  refine tells_call_bind.mpr ⟨?_,fun response _ => tells_finish.mpr fun grant hgrant => ?_,fun e _ grant hgrant => by cases hgrant⟩
  · intro self leaf accessToken lifetime ho
    cases ho
  · obtain ⟨haccess,hexpires⟩ := grantOf_ok hgrant
    exact ⟨body,response.1,response.2,List.mem_append_right _ List.mem_cons_self,haccess,hexpires⟩

theorem minds_other {o : RefreshOp π} (hne : ∀ self leaf accessToken lifetime, o ≠ .remember self leaf accessToken lifetime) :
    Minds cacheDuty (perform o) := minds_call fun _ _ _ _ ho => absurd ho (hne _ _ _ _)

theorem minds_clientSecret {O : OAuthRefresh} : Minds cacheDuty (O.clientSecret : Minting π (Option String)) := by
  unfold OAuthRefresh.clientSecret
  split
  · split
    · exact minds_pure
    · exact Minds.bind (minds_other fun _ _ _ _ ho => by cases ho) fun _ => minds_pure
  · exact minds_pure

theorem minds_persistIfRotated {secrets : SecretsProvider} {leaf sent : String} {rotated : Option String} :
    Minds cacheDuty (OAuthRefresh.persistIfRotated secrets leaf sent rotated : Minting π Unit) := by
  unfold OAuthRefresh.persistIfRotated
  split
  · split
    · exact minds_pure
    · unfold OAuthRefresh.persistRotation
      split
      · exact Minds.tryCatch (minds_other fun _ _ _ _ ho => by cases ho) fun _ => minds_throw
      · exact minds_throw
  · exact minds_pure

theorem tells_cacheToken (self : π) (leaf : String) {grant : TokenGrant} {own : List (RefreshSeen π)}
    (hread : ∃ body payload t, (⟨.read body,.ok (payload,t)⟩ : RefreshSeen π) ∈ own ∧
      payload.get? "access_token" = some (.str grant.accessToken) ∧ grant.expiresIn = expiresIn payload) :
    Tells (fun _ _ => True) (fun own' => cacheDuty.owes (own ++ own')) (fun _ _ => True)
      (OAuthRefresh.cacheToken self leaf grant) := by
  unfold OAuthRefresh.cacheToken
  split
  · trivial
  · rename_i seconds hseconds
    split
    · trivial
    · dsimp only
      split
      · rename_i hpositive
        refine tells_call_bind.mpr ⟨?_,fun _ _ => trivial,fun _ _ => trivial⟩
        intro self' leaf' accessToken lifetime ho
        cases ho
        obtain ⟨body,payload,t,hmem,haccess,hexpires⟩ := hread
        refine ⟨body,payload,t,seconds,List.mem_append_left _ hmem,⟨haccess,by rw [← hexpires,hseconds]⟩,?_⟩
        exact max_eq_right_of_lt ((lt_max_iff.mp hpositive).resolve_left (lt_irrefl _))
      · trivial

theorem minds_resolve {O : OAuthRefresh} {secrets : SecretsProvider} {self : π} {secretName : String} :
    Minds cacheDuty (O.resolve secrets self secretName) := by
  unfold OAuthRefresh.resolve
  refine Minds.bind (minds_other fun _ _ _ _ ho => by cases ho) fun found => ?_
  split
  · exact minds_pure
  · unfold OAuthRefresh.mint
    refine Minds.bind (minds_other fun _ _ _ _ ho => by cases ho) fun sent => ?_
    refine Minds.bind minds_clientSecret fun clientSecret => ?_
    refine Tells.bind tells_fetcher (fun own grant hread => ?_) fun _ _ _ => trivial
    refine Tells.bind (minds_persistIfRotated.after own) (fun stored _ _ => ?_) fun _ _ _ => trivial
    obtain ⟨body,payload,t,hmem,hgrant⟩ := hread grant rfl
    have hcached := tells_cacheToken self (O.refreshLeaf secretName) ⟨body,payload,t,List.mem_append_left stored hmem,hgrant⟩
    refine Tells.bind (Tells.mono hcached (fun _ _ ho => by simpa using ho) fun _ _ _ => trivial) (fun _ _ _ => trivial) fun _ _ _ => trivial

end Minting

section Cache
variable {π ι : Type} {secrets : SecretsProvider} {s : RefreshState π}

theorem cache_exchange {request : TokenRequest} {answer : Option TokenAnswer} :
    (exchange secrets request answer s).2.cache = s.cache := by
  have hexchanged : Exchanged secrets request s (exchange secrets request answer s) := exchange_exchanged request answer s
  generalize exchange secrets request answer s = out at hexchanged
  cases hexchanged <;> rfl

theorem cache_perform [DecidableEq π] {o : RefreshOp π} (x : o.Input) (hne : ∀ self leaf accessToken lifetime, o ≠ .remember self leaf accessToken lifetime) :
    (performRefresh secrets o x s).2.cache = s.cache := by
  cases o with
  | cached self leaf => rfl
  | fetchSecret name => rfl
  | urlopen request => exact cache_exchange
  | read body => rfl
  | storeSecret name value =>
    rw [performRefresh]
    split <;> rfl
  | remember self leaf accessToken lifetime => exact absurd rfl (hne self leaf accessToken lifetime)

def Minted (tr : List (Event ι (RefreshOp π) RefreshOp.Ret CredentialError)) (self : π) (leaf accessToken : String)
    (t₀ lifetime t₁ : ℚ) : Prop :=
  ∃ i body payload seconds, (⟨i,.read body,.ok (payload,t₀)⟩ : Event ι (RefreshOp π) RefreshOp.Ret CredentialError) ∈ tr ∧
    Granted payload accessToken seconds ∧ lifetime = (seconds : ℚ) - expirySkewSeconds ∧
    (⟨i,.remember self leaf accessToken lifetime,.ok t₁⟩ : Event ι (RefreshOp π) RefreshOp.Ret CredentialError) ∈ tr

theorem Minted.mono {tr tr' : List (Event ι (RefreshOp π) RefreshOp.Ret CredentialError)} {self : π} {leaf accessToken : String}
    {t₀ lifetime t₁ : ℚ} (h : Minted tr self leaf accessToken t₀ lifetime t₁) (hsub : tr ⊆ tr') :
    Minted tr' self leaf accessToken t₀ lifetime t₁ := by
  obtain ⟨i,body,payload,seconds,hread,hgranted,hlifetime,hcached⟩ := h
  exact ⟨i,body,payload,seconds,hsub hread,hgranted,hlifetime,hsub hcached⟩

def CacheMinted (s : RefreshState π) (tr : List (Event ι (RefreshOp π) RefreshOp.Ret CredentialError)) : Prop :=
  ∀ self leaf entry, s.cache self leaf = some entry → ∃ t₀ lifetime t₁,
    Minted tr self leaf entry.1 t₀ lifetime t₁ ∧ entry.2 = t₁ + lifetime

variable [DecidableEq π] [DecidableEq ι]

theorem CacheMinted.step {c c' : Config ι (RefreshOp π) RefreshOp.Ret CredentialError (RefreshState π) String}
    {tr : List (Event ι (RefreshOp π) RefreshOp.Ret CredentialError)} {e : Event ι (RefreshOp π) RefreshOp.Ret CredentialError}
    (h : CacheMinted c.state tr) (hs : Step (refreshDevice secrets) c e c')
    (howes : cacheDuty.owes (own e.thread tr) e.op) : CacheMinted c'.state (tr ++ [e]) := by
  have hsub : tr ⊆ tr ++ [e] := List.subset_append_left _ _
  obtain ⟨x,hreply,hstate⟩ := hs.effect
  intro self leaf entry hentry
  rw [hstate] at hentry
  by_cases hcached : ∃ self leaf accessToken lifetime, e.op = .remember self leaf accessToken lifetime
  · obtain ⟨self',leaf',accessToken,lifetime,ho⟩ := hcached
    obtain ⟨i,o,r⟩ := e
    cases ho
    by_cases hhere : self = self' ∧ leaf = leaf'
    · obtain ⟨rfl,rfl⟩ := hhere
      obtain ⟨body,payload,t₀,seconds,hmem,hgranted,hlifetime⟩ := howes self leaf accessToken lifetime rfl
      have hkept : entry = (accessToken,(c.state.later x).now + lifetime) := by
        simpa [refreshDevice,performRefresh,RefreshState.keep] using hentry.symm
      subst hkept
      have hr : r = .ok (c.state.later x).now := hreply
      have hcached : (⟨i,.remember self leaf accessToken lifetime,.ok (c.state.later x).now⟩ :
          Event ι (RefreshOp π) RefreshOp.Ret CredentialError) ∈ tr ++ [⟨i,.remember self leaf accessToken lifetime,r⟩] := by
        rw [hr]
        exact List.mem_append_right _ (List.mem_singleton.mpr rfl)
      exact ⟨t₀,lifetime,(c.state.later x).now,⟨i,body,payload,seconds,hsub (mem_own.mp hmem),hgranted,hlifetime,hcached⟩,rfl⟩
    · have hbefore : c.state.cache self leaf = some entry := by
        simp only [refreshDevice,performRefresh,RefreshState.keep,RefreshState.later] at hentry
        by_cases hself : self = self'
        · subst hself
          rw [Function.update_self,Function.update_of_ne fun hleaf => hhere ⟨rfl,hleaf⟩] at hentry
          exact hentry
        · rwa [Function.update_of_ne hself] at hentry
      obtain ⟨t₀,lifetime',t₁,hminted,hdeadline⟩ := h self leaf entry hbefore
      exact ⟨t₀,lifetime',t₁,hminted.mono hsub,hdeadline⟩
  · have hne : ∀ self leaf accessToken lifetime, e.op ≠ .remember self leaf accessToken lifetime :=
      fun self leaf accessToken lifetime ho => hcached ⟨self,leaf,accessToken,lifetime,ho⟩
    have hbefore : c.state.cache self leaf = some entry := by
      have hsame : ((refreshDevice secrets).perform e.op x c.state).2.cache = c.state.cache := cache_perform x hne
      rw [← hsame]
      exact hentry
    obtain ⟨t₀,lifetime,t₁,hminted,hdeadline⟩ := h self leaf entry hbefore
    exact ⟨t₀,lifetime,t₁,hminted.mono hsub,hdeadline⟩

theorem cacheMinted_of_run {G : Guard ι (RefreshOp π) RefreshOp.Ret CredentialError (RefreshState π) String}
    {c c' : Config ι (RefreshOp π) RefreshOp.Ret CredentialError (RefreshState π) String}
    {tr : List (Event ι (RefreshOp π) RefreshOp.Ret CredentialError)} (h : Run (refreshDevice secrets) G c tr c')
    (hminds : ∀ i, Minds cacheDuty (c.threads i)) (hempty : ∀ self leaf, c.state.cache self leaf = none) :
    CacheMinted c'.state tr := by
  induction h with
  | refl =>
    intro self leaf entry hentry
    rw [hempty] at hentry
    cases hentry
  | step hrun hs hg ih => exact ih.step hs ((hrun.step hs hg).minded (hminds _) rfl)

end Cache

section Conclusion
variable {π ι : Type} [DecidableEq π] {secrets : SecretsProvider} {leaf : String}

abbrev RefreshEvent (π ι : Type) := Event ι (RefreshOp π) RefreshOp.Ret CredentialError

structure Authorized (secrets : SecretsProvider) (leaf : String) (s : RefreshState π) : Prop where
  newest : ∃ older, s.issued = s.valid :: older ∧ s.valid ∉ older
  stored : secrets.fetchSecret s.files leaf = .ok s.valid
  uncached : ∀ self leaf, s.cache self leaf = none

def Advances (secrets : SecretsProvider) (leaf : String) (s s' : RefreshState π) : Prop :=
  ∃ before after, secrets.fetchSecret s.files leaf = .ok before ∧ secrets.fetchSecret s'.files leaf = .ok after ∧
    (after = before ∨ after = s'.valid ∧ ∃ older, s'.issued = after :: older ∧ before ∈ older)

def OnTime (leaf : String) (tr : List (RefreshEvent π ι)) : Prop :=
  ∀ tr₁ tr₂ i self accessToken t, tr = tr₁ ++ ⟨i,.cached self leaf,.ok (some accessToken,t)⟩ :: tr₂ →
    ∃ t₀ lifetime t₁, Minted tr₁ self leaf accessToken t₀ lifetime t₁ ∧ t < t₀ + lifetime

-- No time passes between the end of a call's exchange and the clock reading its token is cached with.
def Prompt (tr : List (RefreshEvent π ι)) : Prop :=
  ∀ i body payload t₀ self leaf accessToken lifetime t₁, (⟨i,.read body,.ok (payload,t₀)⟩ : RefreshEvent π ι) ∈ tr →
    (⟨i,.remember self leaf accessToken lifetime,.ok t₁⟩ : RefreshEvent π ι) ∈ tr → t₁ = t₀

theorem files_perform {s : RefreshState π} {o : RefreshOp π} (x : o.Input) (hne : ∀ name value, o ≠ .storeSecret name value) :
    (performRefresh secrets o x s).2.files = s.files := by
  cases o with
  | cached self leaf => rfl
  | fetchSecret name => rfl
  | urlopen request =>
    have hexchanged : Exchanged secrets request (s.later x.1) (exchange secrets request x.2 (s.later x.1)) :=
      exchange_exchanged request x.2 (s.later x.1)
    rw [performRefresh]
    generalize exchange secrets request x.2 (s.later x.1) = out at hexchanged
    cases hexchanged <;> rfl
  | read body => rfl
  | storeSecret name value => exact absurd rfl (hne name value)
  | remember self leaf accessToken lifetime => rfl

theorem Chain.advances {s : RefreshState π} {l : ι → RefreshStage} (h : Chain secrets leaf s l) (hrotatable : secrets.isRotatable = true)
    {i : ι} {o : RefreshOp π} (x : o.Input) (hmay : refreshMay leaf (l i) o) :
    Advances secrets leaf s (performRefresh secrets o x s).2 := by
  obtain ⟨text,hread,hissued⟩ := h.stored
  by_cases hstore : ∃ name value, o = .storeSecret name value
  · obtain ⟨name,value,rfl⟩ := hstore
    obtain ⟨rfl,hstage⟩ := stage_of_store hmay
    obtain ⟨files,hfiles⟩ := storeSecret_ok value hrotatable hread
    have hafter := (fetchSecret_store hread hfiles).trans (h.readable i value hstage)
    have hvalid := h.valid i value hstage
    subst hvalid
    obtain ⟨older,hnewest,-⟩ := h.newest
    rw [performRefresh,hfiles]
    refine ⟨text,s.valid,hread,hafter,.inr ⟨rfl,older,hnewest,?_⟩⟩
    rw [hnewest,List.mem_cons] at hissued
    exact hissued.resolve_left fun hsame => h.unread i s.valid hstage (by rw [hread,hsame])
  · refine ⟨text,text,hread,?_,.inl rfl⟩
    rw [files_perform x fun name value ho => hstore ⟨name,value,ho⟩]
    exact hread

theorem cached_some {s : RefreshState π} {self : π} {accessToken : String} {t : ℚ} {x : (RefreshOp.cached self leaf).Input}
    (h : ((refreshDevice secrets).perform (.cached self leaf) x s).1 = .ok (some accessToken,t)) :
    ∃ entry, s.cache self leaf = some entry ∧ t < entry.2 ∧ entry.1 = accessToken ∧ (s.later x).now = t := by
  obtain ⟨hfound,ht⟩ := Prod.mk.inj (Except.ok.inj h)
  obtain ⟨entry,hfiltered,htoken⟩ := Option.map_eq_some_iff.mp hfound
  obtain ⟨hentry,hlive⟩ := Option.filter_eq_some_iff.mp hfiltered
  refine ⟨entry,hentry,?_,htoken,ht⟩
  rw [← ht]
  exact of_decide_eq_true hlive

variable [DecidableEq ι] {O : ι → OAuthRefresh} {self : ι → π} {secretName : ι → String}

theorem refresh_chain_kept (hrotatable : secrets.isRotatable = true) (hleaf : ∀ i, (O i).refreshLeaf (secretName i) = leaf)
    {s : RefreshState π} (hstart : Authorized secrets leaf s) {tr : List (RefreshEvent π ι)}
    {c : Config ι (RefreshOp π) RefreshOp.Ret CredentialError (RefreshState π) String}
    (hrun : Run (refreshDevice secrets) anyStep ⟨s,fun i => (O i).resolve secrets (self i) (secretName i)⟩ tr c) :
    (∀ e c', Step (refreshDevice secrets) c e c' → Advances secrets leaf c.state c'.state) ∧
      ((∀ i, ¬ Unstored leaf (own i tr)) → secrets.fetchSecret c.state.files leaf = .ok c.state.valid) ∧
      (∀ i, Unstored leaf (own i tr) → (c.threads i).outcome = none) ∧
      (Prompt tr → OnTime leaf tr) := by
  have hcalls : KeepsAll (fun _ => refreshContract leaf) (fun _ => Ended) (fun _ => .idle)
      fun i => (O i).resolve secrets (self i) (secretName i) := fun i => keeps_resolve hrotatable (hleaf i)
  have hbegins : Standing secrets leaf s (fun _ : ι => .idle) [] := by
    obtain ⟨older,hissued,hnew⟩ := hstart.newest
    refine ⟨⟨⟨older,hissued,hnew⟩,⟨s.valid,hstart.stored,by simp [hissued]⟩,?_,?_,?_,?_,?_,?_,fun _ => hstart.stored⟩,fun i => ?_⟩
    · exact fun i text h => by cases h
    · exact fun i token h => by cases h
    · exact fun i token h => by cases h
    · exact fun i token h => by cases h
    · exact fun i token h => by cases h
    · exact fun i token j token' h => by cases h
    · exact ⟨fun request body => List.not_mem_nil,fun name value r => List.not_mem_nil⟩
  obtain ⟨hkeeps,hchain,haccounts⟩ := hrun.staged_from_start (preserved_refresh hrotatable) hcalls hbegins
  have hunstored : ∀ i, Unstored leaf (own i tr) ↔ ∃ token, stages (fun _ => refreshContract leaf) (fun _ => .idle) tr i = .rotated token :=
    fun i => (haccounts i).unstored
  refine ⟨fun e c' hs => ?_,fun hnone => hchain.settled fun i token htoken => hnone i ((hunstored i).mpr ⟨token,htoken⟩),
    fun i hpending => ?_,fun hprompt => ?_⟩
  · obtain ⟨x,-,hstate⟩ := hs.effect
    rw [hstate]
    exact hchain.advances hrotatable x (hkeeps.may_of_step hs)
  · obtain ⟨token,htoken⟩ := (hunstored i).mp hpending
    cases hout : (c.threads i).outcome with
    | none => rfl
    | some r => exact absurd htoken (keeps_outcome (hkeeps i) hout token)
  · rintro tr₁ tr₂ i me accessToken t rfl
    obtain ⟨c₁,c₂,h₁,hs,-,-⟩ := hrun.split rfl
    have hminted := cacheMinted_of_run h₁ (fun _ => minds_resolve) hstart.uncached
    obtain ⟨x,hreply,-⟩ := hs.effect
    obtain ⟨entry,hentry,hlive,htoken,-⟩ := cached_some hreply.symm
    rw [← htoken]
    obtain ⟨t₀,lifetime,t₁,hfrom,hdeadline⟩ := hminted me leaf entry hentry
    refine ⟨t₀,lifetime,t₁,hfrom,?_⟩
    obtain ⟨j,body,payload,seconds,hread,-,-,hkept⟩ := hfrom
    have hsame := hprompt j body payload t₀ me leaf entry.1 lifetime t₁ (List.mem_append_left _ hread) (List.mem_append_left _ hkept)
    rw [← hsame,← hdeadline]
    exact hlive

end Conclusion

theorem plays_cacheToken {π : Type} {self : π} {leaf : String} {grant : TokenGrant} {seconds : Int} {lifetime t : ℚ}
    (hseconds : grant.expiresIn = some seconds) (hfinite : ¬ floatLimit ≤ seconds)
    (hlifetime : (seconds : ℚ) - expirySkewSeconds = lifetime) (hpositive : 0 < lifetime) :
    Plays (OAuthRefresh.cacheToken self leaf grant) [⟨.remember self leaf grant.accessToken lifetime,.ok t⟩] (.ok ()) := by
  have hkept : max 0 ((seconds : ℚ) - expirySkewSeconds) = lifetime := by rw [hlifetime,max_eq_right hpositive.le]
  simp only [OAuthRefresh.cacheToken,hseconds,if_neg hfinite]
  rw [hkept,if_pos hpositive]
  refine .act ?_
  exact .ret ()

namespace LatePersist

def strategy : OAuthRefresh := { tokenUrl := "https://auth.example/token", clientId := "client" }

def request : TokenRequest :=
  { tokenUrl := "https://auth.example/token", clientId := "client", refreshToken := "r1", clientSecret := none, scope := none }

def answer : TokenAnswer := { accessToken := "a1", named := by decide, expiresIn := some (.num "3600"), successor := some "r2" }

def body : Json := answer.payload request (some "r2")

def start : RefreshState Unit where
  files := Function.update (fun _ => none) "mail" (some "r1")
  valid := "r1"
  issued := ["r1"]
  cache _ _ := none
  now := 0

def rotated : RefreshState Unit := { start with valid := "r2", issued := ["r2","r1"] }

section Delay
variable (delay : ℚ)

def stored : RefreshState Unit := { rotated with files := Function.update start.files "mail" (some "r2"), now := delay }

def kept : RefreshState Unit := (stored delay).keep () "mail" ("a1",delay + 3300)

def minting : List (RefreshSeen Unit) :=
  [⟨.cached () "mail",.ok (none,0)⟩,⟨.fetchSecret "mail",.ok "r1"⟩,⟨.urlopen request,.ok body⟩,⟨.read body,.ok (body,0)⟩,
    ⟨.storeSecret "mail" "r2",.ok ()⟩,⟨.remember () "mail" "a1" 3300,.ok delay⟩]

def late : RefreshSeen Unit := ⟨.cached () "mail",.ok (some "a1",delay + 3295)⟩

def trace : List (RefreshEvent Unit Bool) := events false (minting delay) ++ events true [late delay]

end Delay

theorem body_rotates : rotatedIn request body = some "r2" := rotatedIn_payload fun token h => by
  cases h
  decide

def grant : TokenGrant := { accessToken := "a1", rotatedRefreshToken := some "r2", expiresIn := some 3600 }

theorem body_grants : grantOf request body = .ok grant := by
  have hexpires : expiresIn body = some 3600 := by decide
  have hgrant : grantOf request body = .ok { accessToken := "a1", rotatedRefreshToken := rotatedIn request body, expiresIn := expiresIn body } :=
    grantOf_payload
  rw [hgrant,body_rotates,hexpires]
  rfl

theorem fetcher_plays : Plays (urllibTokenFetcher request : Minting Unit TokenGrant)
    [⟨.urlopen request,.ok body⟩,⟨.read body,.ok (body,0)⟩] (.ok grant) := by
  refine .act (.act ?_)
  show Plays (Prog.finish (grantOf request body)) [] _
  rw [body_grants]
  exact .ret grant

theorem store_plays : Plays (OAuthRefresh.persistIfRotated .dir "mail" "r1" grant.rotatedRefreshToken : Minting Unit Unit)
    [⟨.storeSecret "mail" "r2",.ok ()⟩] (.ok ()) := by
  have hwritable : SecretsProvider.isRotatable .dir = true := by decide
  have hdiffers : "r2" ≠ "r1" := by decide
  rw [grant,OAuthRefresh.persistIfRotated,if_neg hdiffers,OAuthRefresh.persistRotation,if_pos hwritable]
  exact .act (.ret ())

section Delay
variable (delay : ℚ)

theorem cache_plays : Plays (OAuthRefresh.cacheToken () "mail" grant : Minting Unit Unit)
    [⟨.remember () "mail" "a1" 3300,.ok delay⟩] (.ok ()) :=
  plays_cacheToken rfl (by decide +kernel) (by norm_num [expirySkewSeconds]) (by norm_num)

theorem minting_plays : Plays (strategy.resolve .dir () "mail") (minting delay) (.ok "a1") := by
  have hcached : Plays (OAuthRefresh.cacheToken () "mail" grant >>= fun _ => pure grant.accessToken : Minting Unit String)
      [⟨.remember () "mail" "a1" 3300,.ok delay⟩] (.ok "a1") := (cache_plays delay).bind (.ret "a1")
  have hstored : Plays (OAuthRefresh.persistIfRotated .dir "mail" "r1" grant.rotatedRefreshToken >>= fun _ =>
      OAuthRefresh.cacheToken () "mail" grant >>= fun _ => pure grant.accessToken : Minting Unit String)
      [⟨.storeSecret "mail" "r2",.ok ()⟩,⟨.remember () "mail" "a1" 3300,.ok delay⟩] (.ok "a1") := store_plays.bind hcached
  have hfetched : Plays (urllibTokenFetcher request >>= fun grant =>
      OAuthRefresh.persistIfRotated .dir "mail" "r1" grant.rotatedRefreshToken >>= fun _ =>
      OAuthRefresh.cacheToken () "mail" grant >>= fun _ => pure grant.accessToken : Minting Unit String)
      [⟨.urlopen request,.ok body⟩,⟨.read body,.ok (body,0)⟩,⟨.storeSecret "mail" "r2",.ok ()⟩,
        ⟨.remember () "mail" "a1" 3300,.ok delay⟩] (.ok "a1") := fetcher_plays.bind hstored
  exact .act (.act hfetched)

def instantly : Moment := ⟨0,le_refl 0⟩

theorem trace_answers (hdelay : 0 ≤ delay) :
    Interleaving.Answers (refreshDevice .dir) start (trace delay) { kept delay with now := delay + 3295 } := by
  have hlater : ∀ s : RefreshState Unit, s.later instantly = s := fun s => by simp [RefreshState.later,instantly]
  have hfetch : SecretsProvider.fetchSecret .dir start.files "mail" = .ok "r1" := by decide
  have hstore : SecretsProvider.storeSecret .dir rotated.files "mail" "r2" = .ok (stored delay).files := by rfl
  have hexchange : exchange .dir request (some answer) start = (.ok body,rotated) := by rfl
  have hlive : delay + 3295 < delay + 3300 := by linarith
  have hmiss : performRefresh .dir (.cached () "mail") instantly start = (.ok (none,0),start) := by
    simp only [performRefresh,hlater]
    rfl
  have hread : performRefresh .dir (.fetchSecret "mail") instantly start = (.ok "r1",start) := by
    simp only [performRefresh,hlater,hfetch]
    rfl
  have haccepted : performRefresh .dir (.urlopen request) (instantly,some answer) start = (.ok body,rotated) := by
    simp only [performRefresh,hlater,hexchange]
    rfl
  have hreply : performRefresh .dir (.read body) instantly rotated = (.ok (body,0),rotated) := by
    simp only [performRefresh,hlater]
    rfl
  have hpersisted : performRefresh .dir (.storeSecret "mail" "r2") ⟨delay,hdelay⟩ rotated = (.ok (),stored delay) := by
    simp only [performRefresh,hstore]
    simp [stored,rotated,start,RefreshState.later]
  have hkept : performRefresh .dir (.remember () "mail" "a1" 3300) instantly (stored delay) = (.ok delay,kept delay) := by
    simp only [performRefresh,hlater]
    rfl
  have hlate : performRefresh .dir (.cached () "mail") ⟨3295,by norm_num⟩ (kept delay) =
      (.ok (some "a1",delay + 3295),{ kept delay with now := delay + 3295 }) := by
    simp only [performRefresh,RefreshState.later]
    simp [kept,stored,RefreshState.keep,Option.filter_some,hlive]
  exact .act false instantly hmiss (.act false instantly hread (.act false (instantly,some answer) haccepted
    (.act false instantly hreply (.act false ⟨delay,hdelay⟩ hpersisted (.act false instantly hkept (.act true _ hlate (.nil _)))))))

theorem start_authorized : Authorized .dir "mail" start := ⟨⟨[],rfl,by decide⟩,by decide,fun _ _ => rfl⟩

theorem trace_run (hdelay : 0 ≤ delay) : ∃ c : Config Bool (RefreshOp Unit) RefreshOp.Ret CredentialError (RefreshState Unit) String,
    Run (refreshDevice .dir) anyStep ⟨start,fun _ => strategy.resolve .dir () "mail"⟩ (trace delay) c := by
  have hplays : ∀ i : Bool, Plays (strategy.resolve .dir () "mail") (own i (trace delay) ++ []) (.ok "a1") := by
    intro i
    cases i
    · exact minting_plays delay
    · exact .act (.ret "a1")
  obtain ⟨c,hrun,-,-⟩ := (trace_answers delay hdelay).run hplays
  exact ⟨c,hrun⟩

theorem mem_trace {i : Bool} {o : RefreshOp Unit} {r : Except CredentialError o.Ret}
    (h : (⟨i,o,r⟩ : RefreshEvent Unit Bool) ∈ trace delay) :
    (⟨o,r⟩ : RefreshSeen Unit) ∈ minting delay ∨ (⟨o,r⟩ : RefreshSeen Unit) = late delay := by
  rw [← mem_own] at h
  cases i
  · exact .inl h
  · exact .inr (List.mem_singleton.mp h)

theorem read_trace {i : Bool} {read payload : Json} {t₀ : ℚ}
    (h : (⟨i,.read read,.ok (payload,t₀)⟩ : RefreshEvent Unit Bool) ∈ trace delay) : payload = body ∧ t₀ = 0 := by
  rcases mem_trace delay h with hmem | hlate
  · simp only [minting,List.mem_cons,Saw.mk.injEq,List.not_mem_nil,or_false,reduceCtorEq,false_and,false_or,RefreshOp.read.injEq]
      at hmem
    obtain ⟨rfl,hreply⟩ := hmem
    cases hreply
    exact ⟨rfl,rfl⟩
  · cases congrArg Saw.op hlate

theorem remember_trace {i : Bool} {leaf accessToken : String} {lifetime t₁ : ℚ}
    (h : (⟨i,.remember () leaf accessToken lifetime,.ok t₁⟩ : RefreshEvent Unit Bool) ∈ trace delay) : t₁ = delay := by
  rcases mem_trace delay h with hmem | hlate
  · simp only [minting,List.mem_cons,Saw.mk.injEq,List.not_mem_nil,or_false,reduceCtorEq,false_and,false_or,
      RefreshOp.remember.injEq] at hmem
    obtain ⟨⟨-,rfl,rfl,rfl⟩,hreply⟩ := hmem
    cases hreply
    rfl
  · cases congrArg Saw.op hlate

theorem trace_stored (i : Bool) : ¬ Unstored "mail" (own i (trace delay)) := by
  rintro ⟨sent,reply,token,hmem,hrotated,hstored⟩
  rcases mem_trace delay (mem_own.mp hmem) with hmem' | hlate
  · simp only [minting,List.mem_cons,Saw.mk.injEq,List.not_mem_nil,or_false,reduceCtorEq,false_and,false_or,RefreshOp.urlopen.injEq]
      at hmem'
    obtain ⟨rfl,hreply⟩ := hmem'
    cases hreply
    rw [body_rotates] at hrotated
    cases hrotated
    cases i
    · refine hstored ?_
      show _ ∈ minting delay
      simp [minting]
    · cases congrArg Saw.op (List.mem_singleton.mp hmem)
  · cases congrArg Saw.op hlate

end Delay

theorem resolve_prompt : ∃ c : Config Bool (RefreshOp Unit) RefreshOp.Ret CredentialError (RefreshState Unit) String,
    Run (refreshDevice .dir) anyStep ⟨start,fun _ => strategy.resolve .dir () "mail"⟩ (trace 0) c ∧
      SecretsProvider.fetchSecret .dir c.state.files "mail" = .ok c.state.valid ∧ OnTime "mail" (trace 0) := by
  obtain ⟨c,hrun⟩ := trace_run 0 (le_refl 0)
  obtain ⟨-,hheld,-,hontime⟩ := @refresh_chain_kept Unit Bool _ .dir "mail" _ (fun _ => strategy) (fun _ => ()) (fun _ => "mail")
    (by decide) (fun _ => rfl) _ start_authorized _ _ hrun
  refine ⟨c,hrun,hheld (trace_stored 0),hontime ?_⟩
  intro i read payload t₀ self leaf accessToken lifetime t₁ hread hremember
  rw [(read_trace 0 hread).2]
  exact remember_trace 0 hremember

theorem cached_late : ∃ (tr : List (RefreshEvent Unit Bool)) (c : Config Bool (RefreshOp Unit) RefreshOp.Ret CredentialError
    (RefreshState Unit) String), Authorized .dir "mail" start ∧
      Run (refreshDevice .dir) anyStep ⟨start,fun _ => strategy.resolve .dir () "mail"⟩ tr c ∧ ¬ OnTime "mail" tr := by
  obtain ⟨c,hrun⟩ := trace_run 10 (by norm_num)
  refine ⟨trace 10,c,start_authorized,hrun,fun htime => ?_⟩
  obtain ⟨t₀,lifetime,t₁,⟨i,read,payload,seconds,hread,⟨-,hseconds⟩,hlifetime,-⟩,hbefore⟩ :=
    htime (events false (minting 10)) [] true () "a1" (10 + 3295) rfl
  obtain ⟨rfl,rfl⟩ := read_trace 10 (List.mem_append_left _ hread)
  have hstated : expiresIn body = some 3600 := by decide
  rw [hstated] at hseconds
  cases hseconds
  rw [hlifetime,expirySkewSeconds] at hbefore
  norm_num at hbefore

end LatePersist

end Runtime.TokenChain

end SafeAgents
