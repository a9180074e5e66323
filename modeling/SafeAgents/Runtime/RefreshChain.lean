import SafeAgents.Runtime.OAuthRefresh

namespace SafeAgents

open Interleaving Wire

namespace Runtime.TokenChain

inductive RefreshStage where
  | idle
  | holding (sent : String)
  | rotated (token : String)
  | settled

def RefreshStage.ofRotation : Option String → RefreshStage
  | some token => .rotated token
  | none => .settled

section Contract
variable {π : Type}

def refreshNext : RefreshStage → (o : RefreshOp π) → Except CredentialError o.Ret → RefreshStage
  | .idle, .fetchSecret _, .ok text => .holding text
  | .holding _, .urlopen request, .ok body => .ofRotation (rotatedIn request body)
  | .rotated _, .storeSecret _ _, _ => .settled
  | l, _, _ => l

def refreshMay (leaf : String) : RefreshStage → RefreshOp π → Prop
  | .idle, o => (∃ self, o = .cached self leaf) ∨ o = .fetchSecret leaf
  | .holding sent, o => (∃ name, o = .fetchSecret name) ∨ ∃ request, o = .urlopen request ∧ request.refreshToken = sent
  | .rotated token, o => (∃ body, o = .read body) ∨ o = .storeSecret leaf token
  | .settled, o => (∃ body, o = .read body) ∨ ∃ self token lifetime, o = .remember self leaf token lifetime

def refreshHeard : (o : RefreshOp π) → Except CredentialError o.Ret → Prop
  | .urlopen request, r => ∀ body, r = .ok body → ∃ (a : TokenAnswer) (rotated : Option String),
      body = a.payload request rotated ∧ ∀ token, rotated = some token → token ≠ "" ∧ token ≠ request.refreshToken
  | .read body, r => ∃ t, r = .ok (body,t)
  | .storeSecret _ _, r => r = .ok ()
  | _, _ => True

def refreshContract (leaf : String) : Contract (RefreshOp π) RefreshOp.Ret CredentialError RefreshStage :=
  ⟨refreshMay leaf,fun _ => refreshHeard,refreshNext⟩

variable {leaf : String} {secrets : SecretsProvider} {self : π} {l : RefreshStage}

theorem stage_of_store {name value : String} (h : refreshMay leaf l (.storeSecret name value : RefreshOp π)) :
    name = leaf ∧ l = .rotated value := by
  cases l with
  | idle => rcases h with ⟨self,ho⟩ | ho <;> cases ho
  | holding sent => rcases h with ⟨name,ho⟩ | ⟨request,ho,-⟩ <;> cases ho
  | rotated token =>
    rcases h with ⟨body,ho⟩ | ho
    · cases ho
    · cases ho
      exact ⟨rfl,rfl⟩
  | settled => rcases h with ⟨body,ho⟩ | ⟨self,token,lifetime,ho⟩ <;> cases ho

theorem keeps_perform {o : RefreshOp π} {Q : RefreshStage → Except CredentialError o.Ret → Prop} :
    Keeps (refreshContract leaf) Q l (perform o) ↔
      refreshMay leaf l o ∧ ∀ r, refreshHeard o r → Q (refreshNext l o r) r := by
  simp only [perform,Prog.call,keeps_act,keeps_finish]
  rfl

theorem keeps_clientSecret (O : OAuthRefresh) {sent : String} :
    Keeps (refreshContract (π := π) leaf) (fun l _ => l = .holding sent) (.holding sent) O.clientSecret := by
  unfold OAuthRefresh.clientSecret
  split
  · split
    · exact rfl
    · refine Keeps.bind (Q := fun l _ => l = .holding sent) ?_ (fun l a h => ?_) fun l e h => h
      · exact keeps_perform.mpr ⟨.inl ⟨_,rfl⟩,fun r _ => rfl⟩
      · exact h
  · exact rfl

def Fetched (request : TokenRequest) (l : RefreshStage) : Except CredentialError TokenGrant → Prop
  | .ok grant => l = .ofRotation grant.rotatedRefreshToken ∧ grant.rotatedRefreshToken ≠ some request.refreshToken
  | .error _ => ∀ token, l ≠ .rotated token

theorem keeps_fetcher {request : TokenRequest} :
    Keeps (refreshContract (π := π) leaf) (Fetched request) (.holding request.refreshToken) (urllibTokenFetcher request) := by
  unfold urllibTokenFetcher
  refine Keeps.bind (Q := fun l r => match r with
    | .ok body => l = .ofRotation (rotatedIn request body) ∧ refreshHeard (π := π) (.urlopen request) (.ok body)
    | .error _ => l = .holding request.refreshToken) ?_ ?_ ?_
  · refine Keeps.tryCatch (Q := fun l r => match r with
      | .ok body => l = .ofRotation (rotatedIn request body) ∧ refreshHeard (π := π) (.urlopen request) (.ok body)
      | .error _ => l = .holding request.refreshToken) ?_ (fun _ _ h => h) fun _ _ h => h
    refine keeps_perform.mpr ⟨.inr ⟨request,rfl,rfl⟩,fun r hr => ?_⟩
    cases r with
    | ok body => exact ⟨rfl,hr⟩
    | error e => exact rfl
  · rintro l body ⟨rfl,hheard⟩
    obtain ⟨a,rotated,rfl,hfresh⟩ := hheard body rfl
    rw [rotatedIn_payload hfresh]
    refine Keeps.bind (Q := fun l r => l = .ofRotation rotated ∧ ∃ t, r = .ok (a.payload request rotated,t)) ?_ ?_ ?_
    · refine keeps_perform.mpr ⟨?_,fun r hr => ⟨?_,hr⟩⟩
      · cases rotated with
        | some token => exact .inl ⟨_,rfl⟩
        | none => exact .inl ⟨_,rfl⟩
      · cases rotated <;> rfl
    · rintro l response ⟨rfl,t,ht⟩
      cases ht
      rw [grantOf_payload,rotatedIn_payload hfresh]
      exact ⟨rfl,fun hsame => (hfresh _ hsame).2 rfl⟩
    · rintro l e ⟨-,t,ht⟩
      cases ht
  · rintro l e rfl
    exact fun token h => by cases h

theorem keeps_persistIfRotated {sent : String} {rotated : Option String} (hrotatable : secrets.isRotatable = true)
    (hfresh : rotated ≠ some sent) :
    Keeps (refreshContract (π := π) leaf) (fun l r => l = .settled ∧ r = .ok ()) (.ofRotation rotated)
      (OAuthRefresh.persistIfRotated secrets leaf sent rotated) := by
  cases rotated with
  | none => exact ⟨rfl,rfl⟩
  | some token =>
    have hne : token ≠ sent := fun h => hfresh (congrArg some h)
    rw [OAuthRefresh.persistIfRotated,if_neg hne,OAuthRefresh.persistRotation,if_pos hrotatable]
    refine Keeps.tryCatch (Q := fun l r => l = .settled ∧ r = .ok ()) ?_ (fun _ _ h => h) fun _ _ h => by cases h.2
    exact keeps_perform.mpr ⟨.inr rfl,fun r hr => ⟨rfl,hr⟩⟩

theorem keeps_cacheToken {grant : TokenGrant} :
    Keeps (refreshContract leaf) (fun l _ => l = .settled) .settled (OAuthRefresh.cacheToken self leaf grant) := by
  unfold OAuthRefresh.cacheToken
  split
  · exact rfl
  · split
    · exact rfl
    · dsimp only
      split
      · refine Keeps.bind (Q := fun l _ => l = .settled) ?_ (fun _ _ h => ?_) fun _ _ h => h
        · exact keeps_perform.mpr ⟨.inr ⟨self,_,_,rfl⟩,fun _ _ => rfl⟩
        · exact h
      · exact rfl

def Ended (l : RefreshStage) (_ : Except CredentialError String) : Prop := ∀ token, l ≠ .rotated token

def Read (l : RefreshStage) : Except CredentialError String → Prop
  | .ok text => l = .holding text
  | .error _ => l = .idle

theorem keeps_resolve {O : OAuthRefresh} {secretName : String} (hrotatable : secrets.isRotatable = true)
    (hleaf : O.refreshLeaf secretName = leaf) :
    Keeps (refreshContract leaf) Ended .idle (O.resolve secrets self secretName) := by
  subst hleaf
  unfold OAuthRefresh.resolve
  refine Keeps.bind (Q := fun l _ => l = .idle) ?_ ?_ ?_
  · exact keeps_perform.mpr ⟨.inl ⟨self,rfl⟩,fun r _ => rfl⟩
  · rintro l found rfl
    split
    · exact fun token h => by cases h
    · unfold OAuthRefresh.mint
      refine Keeps.bind (Q := Read) ?_ ?_ ?_
      · refine keeps_perform.mpr ⟨.inr rfl,fun r _ => ?_⟩
        cases r <;> exact rfl
      · rintro l sent rfl
        refine Keeps.bind (keeps_clientSecret O) ?_ ?_
        · rintro l clientSecret rfl
          refine Keeps.bind keeps_fetcher ?_ fun _ _ h => h
          rintro l grant ⟨rfl,hfresh⟩
          refine Keeps.bind (keeps_persistIfRotated hrotatable hfresh) ?_ ?_
          · rintro l - ⟨rfl,-⟩
            refine Keeps.bind keeps_cacheToken ?_ ?_
            · rintro l - rfl
              exact fun token h => by cases h
            · rintro l e rfl
              exact fun token h => by cases h
          · rintro l e ⟨-,h⟩
            cases h
        · rintro l e rfl
          exact fun token h => by cases h
      · rintro l e rfl
        exact fun token h => by cases h
  · rintro l e rfl
    exact fun token h => by cases h

end Contract

section Accounting
variable {π : Type} {leaf : String}

abbrev RefreshSeen (π : Type) := Saw (RefreshOp π) RefreshOp.Ret CredentialError

def Unstored (leaf : String) (seen : List (RefreshSeen π)) : Prop :=
  ∃ request body token, (⟨.urlopen request,.ok body⟩ : RefreshSeen π) ∈ seen ∧ rotatedIn request body = some token ∧
    (⟨.storeSecret leaf token,.ok ()⟩ : RefreshSeen π) ∉ seen

def NoExchange (seen : List (RefreshSeen π)) : Prop :=
  ∀ request body, (⟨.urlopen request,.ok body⟩ : RefreshSeen π) ∉ seen

def NoStore (seen : List (RefreshSeen π)) : Prop :=
  ∀ name value r, (⟨.storeSecret name value,r⟩ : RefreshSeen π) ∉ seen

def Accounts (leaf : String) (seen : List (RefreshSeen π)) : RefreshStage → Prop
  | .idle => NoExchange seen ∧ NoStore seen
  | .holding _ => NoExchange seen ∧ NoStore seen
  | .rotated token => Unstored leaf seen ∧ NoStore seen ∧
      ∀ request body, (⟨.urlopen request,.ok body⟩ : RefreshSeen π) ∈ seen → rotatedIn request body = some token
  | .settled => ¬ Unstored leaf seen

theorem Accounts.unstored {seen : List (RefreshSeen π)} {l : RefreshStage} (h : Accounts leaf seen l) :
    Unstored leaf seen ↔ ∃ token, l = .rotated token := by
  cases l with
  | idle => exact ⟨fun ⟨_,_,_,hmem,_⟩ => absurd hmem (h.1 _ _),fun ⟨_,h⟩ => by cases h⟩
  | holding sent => exact ⟨fun ⟨_,_,_,hmem,_⟩ => absurd hmem (h.1 _ _),fun ⟨_,h⟩ => by cases h⟩
  | rotated token => exact ⟨fun _ => ⟨token,rfl⟩,fun _ => h.1⟩
  | settled => exact ⟨fun hu => absurd hu h,fun ⟨_,h⟩ => by cases h⟩

theorem Accounts.quiet {seen : List (RefreshSeen π)} {l : RefreshStage} {saw : RefreshSeen π} (h : Accounts leaf seen l)
    (hexchange : ∀ request body, saw ≠ ⟨.urlopen request,.ok body⟩) (hstore : ∀ name value r, saw ≠ ⟨.storeSecret name value,r⟩) :
    Accounts leaf (seen ++ [saw]) l := by
  have hno : NoExchange seen → NoExchange (seen ++ [saw]) := by
    intro hnone request body hmem
    rcases List.mem_append.mp hmem with hmem | hmem
    · exact hnone _ _ hmem
    · exact hexchange _ _ (List.mem_singleton.mp hmem).symm
  have hsaw : NoStore seen → NoStore (seen ++ [saw]) := by
    intro hnone name value r hmem
    rcases List.mem_append.mp hmem with hmem | hmem
    · exact hnone _ _ _ hmem
    · exact hstore _ _ _ (List.mem_singleton.mp hmem).symm
  have hstored : ∀ token, (⟨.storeSecret leaf token,.ok ()⟩ : RefreshSeen π) ∈ seen ++ [saw] ↔
      (⟨.storeSecret leaf token,.ok ()⟩ : RefreshSeen π) ∈ seen := by
    intro token
    simp only [List.mem_append,List.mem_singleton,or_iff_left_iff_imp]
    exact fun hsame => absurd hsame.symm (hstore _ _ _)
  have hexchanged : ∀ request body, (⟨.urlopen request,.ok body⟩ : RefreshSeen π) ∈ seen ++ [saw] ↔
      (⟨.urlopen request,.ok body⟩ : RefreshSeen π) ∈ seen := by
    intro request body
    simp only [List.mem_append,List.mem_singleton,or_iff_left_iff_imp]
    exact fun hsame => absurd hsame.symm (hexchange _ _)
  have hunstored : Unstored leaf (seen ++ [saw]) ↔ Unstored leaf seen := by
    simp only [Unstored,hstored,hexchanged]
  cases l with
  | idle => exact ⟨hno h.1,hsaw h.2⟩
  | holding sent => exact ⟨hno h.1,hsaw h.2⟩
  | rotated token => exact ⟨hunstored.mpr h.1,hsaw h.2.1,fun request body hmem => h.2.2 request body ((hexchanged _ _).mp hmem)⟩
  | settled => exact fun hu => h (hunstored.mp hu)

theorem Accounts.next {seen : List (RefreshSeen π)} {l : RefreshStage} {o : RefreshOp π} {r : Except CredentialError o.Ret}
    (h : Accounts leaf seen l) (hmay : refreshMay leaf l o) (hheard : refreshHeard o r) :
    Accounts leaf (seen ++ [⟨o,r⟩]) (refreshNext l o r) := by
  cases l with
  | idle =>
    rcases hmay with ⟨self,rfl⟩ | rfl
    · exact h.quiet (fun _ _ h => by cases h) fun _ _ _ h => by cases h
    · have hquiet : Accounts leaf (seen ++ [⟨.fetchSecret leaf,r⟩]) .idle := h.quiet (fun _ _ h => by cases h) fun _ _ _ h => by cases h
      cases r <;> exact hquiet
  | holding sent =>
    rcases hmay with ⟨name,rfl⟩ | ⟨request,rfl,-⟩
    · exact h.quiet (fun _ _ h => by cases h) fun _ _ _ h => by cases h
    · cases r with
      | error e => exact h.quiet (fun _ _ h => by cases h) fun _ _ _ h => by cases h
      | ok body =>
        have hnone : NoStore (seen ++ [⟨.urlopen request,.ok body⟩]) := by
          intro name value r hmem
          rcases List.mem_append.mp hmem with hmem | hmem
          · exact h.2 _ _ _ hmem
          · cases List.mem_singleton.mp hmem
        have honly : ∀ request' body', (⟨.urlopen request',.ok body'⟩ : RefreshSeen π) ∈ seen ++ [⟨.urlopen request,.ok body⟩] →
            rotatedIn request' body' = rotatedIn request body := by
          intro request' body' hmem
          rcases List.mem_append.mp hmem with hmem | hmem
          · exact absurd hmem (h.1 _ _)
          · cases List.mem_singleton.mp hmem
            rfl
        show Accounts leaf _ (.ofRotation (rotatedIn request body))
        cases hrotated : rotatedIn request body with
        | some token =>
          refine ⟨⟨request,body,token,by simp,hrotated,hnone _ _ _⟩,hnone,fun request' body' hmem => ?_⟩
          rw [honly request' body' hmem,hrotated]
        | none =>
          rintro ⟨request',body',token,hmem,hsome,-⟩
          rw [honly request' body' hmem,hrotated] at hsome
          cases hsome
  | rotated token =>
    rcases hmay with ⟨body,rfl⟩ | rfl
    · exact h.quiet (fun _ _ h => by cases h) fun _ _ _ h => by cases h
    · cases hheard
      rintro ⟨request,body,token',hmem,hsome,hstored⟩
      rcases List.mem_append.mp hmem with hmem | hmem
      · have hsame := h.2.2 request body hmem
        rw [hsome] at hsame
        cases hsame
        exact hstored (by simp)
      · cases List.mem_singleton.mp hmem
  | settled =>
    rcases hmay with ⟨body,rfl⟩ | ⟨self,token,lifetime,rfl⟩
    · exact h.quiet (fun _ _ h => by cases h) fun _ _ _ h => by cases h
    · exact h.quiet (fun _ _ h => by cases h) fun _ _ _ h => by cases h

end Accounting

section Invariant
variable {π ι : Type} {secrets : SecretsProvider} {leaf : String} {s : RefreshState π} {l : ι → RefreshStage}

structure Chain (secrets : SecretsProvider) (leaf : String) (s : RefreshState π) (l : ι → RefreshStage) : Prop where
  newest : ∃ older, s.issued = s.valid :: older ∧ s.valid ∉ older
  stored : ∃ text, secrets.fetchSecret s.files leaf = .ok text ∧ text ∈ s.issued
  holding : ∀ i text, l i = .holding text → text ∈ s.issued
  valid : ∀ i token, l i = .rotated token → token = s.valid
  readable : ∀ i token, l i = .rotated token → secrets.readText token = .ok token
  unread : ∀ i token, l i = .rotated token → secrets.fetchSecret s.files leaf ≠ .ok s.valid
  unheld : ∀ i token, l i = .rotated token → ∀ j, l j ≠ .holding s.valid
  single : ∀ i token j token', l i = .rotated token → l j = .rotated token' → i = j
  settled : (∀ i token, l i ≠ .rotated token) → secrets.fetchSecret s.files leaf = .ok s.valid

theorem Chain.later (h : Chain secrets leaf s l) (x : Moment) : Chain secrets leaf (s.later x) l := { h with }

theorem Chain.keep [DecidableEq π] (h : Chain secrets leaf s l) (self : π) (name : String) (entry : String × ℚ) :
    Chain secrets leaf (s.keep self name entry) l := { h with }

theorem Chain.valid_issued (h : Chain secrets leaf s l) : s.valid ∈ s.issued := by
  obtain ⟨older,hissued,-⟩ := h.newest
  simp [hissued]

theorem Chain.none_rotated (h : Chain secrets leaf s l) {i : ι} (hi : l i = .holding s.valid) : ∀ j token, l j ≠ .rotated token :=
  fun j token hj => h.unheld j token hj i hi

section Moves
variable [DecidableEq ι]

theorem Chain.fetched (h : Chain secrets leaf s l) {i : ι} (hi : l i = .idle) {text : String}
    (hread : secrets.fetchSecret s.files leaf = .ok text) : Chain secrets leaf s (Function.update l i (.holding text)) := by
  have hother : ∀ j token, Function.update l i (.holding text) j = .rotated token → l j = .rotated token := by
    intro j token hj
    by_cases hji : j = i
    · subst hji
      simp at hj
    · rwa [Function.update_of_ne hji] at hj
  refine ⟨h.newest,h.stored,?_,fun j token hj => h.valid j token (hother j token hj),
    fun j token hj => h.readable j token (hother j token hj),fun j token hj => h.unread j token (hother j token hj),?_,
    fun j token k token' hj hk => h.single j token k token' (hother j token hj) (hother k token' hk),?_⟩
  · intro j text' hj
    by_cases hji : j = i
    · subst hji
      obtain ⟨stored,hstored,hissued⟩ := h.stored
      rw [Function.update_self] at hj
      cases hj
      cases hread.symm.trans hstored
      exact hissued
    · exact h.holding j text' (by rwa [Function.update_of_ne hji] at hj)
  · intro j token hj k hk
    by_cases hki : k = i
    · subst hki
      rw [Function.update_self] at hk
      cases hk
      exact h.unread j token (hother j token hj) hread
    · exact h.unheld j token (hother j token hj) k (by rwa [Function.update_of_ne hki] at hk)
  · intro hnone
    refine h.settled fun j token hj => ?_
    by_cases hji : j = i
    · subst hji
      rw [hi] at hj
      cases hj
    · exact hnone j token (by rwa [Function.update_of_ne hji])

theorem Chain.kept (h : Chain secrets leaf s l) {i : ι} (hi : l i = .holding s.valid) :
    Chain secrets leaf s (Function.update l i .settled) := by
  have hnone := h.none_rotated hi
  have hnone' : ∀ j token, Function.update l i .settled j ≠ .rotated token := by
    intro j token hj
    by_cases hji : j = i
    · subst hji
      simp at hj
    · exact hnone j token (by rwa [Function.update_of_ne hji] at hj)
  refine ⟨h.newest,h.stored,fun j text hj => ?_,fun j token hj => absurd hj (hnone' j token),
    fun j token hj => absurd hj (hnone' j token),fun j token hj => absurd hj (hnone' j token),
    fun j token hj => absurd hj (hnone' j token),fun j token _ _ hj => absurd hj (hnone' j token),fun _ => h.settled hnone⟩
  by_cases hji : j = i
  · subst hji
    simp at hj
  · exact h.holding j text (by rwa [Function.update_of_ne hji] at hj)

theorem Chain.rotate (h : Chain secrets leaf s l) {i : ι} (hi : l i = .holding s.valid) {token : String}
    (hfresh : token ∉ s.issued) (hreadable : secrets.readText token = .ok token) :
    Chain secrets leaf { s with valid := token, issued := token :: s.issued } (Function.update l i (.rotated token)) := by
  have hone : ∀ j token', Function.update l i (.rotated token) j = .rotated token' → j = i ∧ token' = token := by
    intro j token' hj
    by_cases hji : j = i
    · subst hji
      rw [Function.update_self] at hj
      cases hj
      exact ⟨rfl,rfl⟩
    · rw [Function.update_of_ne hji] at hj
      exact absurd hj (h.none_rotated hi j token')
  have hheld : ∀ j text, Function.update l i (.rotated token) j = .holding text → text ∈ s.issued := by
    intro j text hj
    by_cases hji : j = i
    · subst hji
      simp at hj
    · exact h.holding j text (by rwa [Function.update_of_ne hji] at hj)
  obtain ⟨text,htext,hissued⟩ := h.stored
  refine ⟨⟨s.issued,rfl,hfresh⟩,⟨text,htext,List.mem_cons_of_mem _ hissued⟩,
    fun j text hj => List.mem_cons_of_mem _ (hheld j text hj),fun j token' hj => (hone j token' hj).2,?_,?_,?_,?_,?_⟩
  · intro j token' hj
    rw [(hone j token' hj).2]
    exact hreadable
  · intro j token' hj hread
    cases htext.symm.trans hread
    exact hfresh hissued
  · exact fun j token' hj k hk => hfresh (hheld k token hk)
  · exact fun j token' k token'' hj hk => (hone j token' hj).1.trans (hone k token'' hk).1.symm
  · exact fun hnone => absurd (Function.update_self i _ l) (hnone i token)

theorem Chain.persisted (h : Chain secrets leaf s l) {i : ι} {token : String} (hi : l i = .rotated token)
    {files : String → Option String} (hfiles : secrets.fetchSecret files leaf = .ok token) :
    Chain secrets leaf { s with files } (Function.update l i .settled) := by
  have hvalid := h.valid i token hi
  have hnone : ∀ j token', Function.update l i .settled j ≠ .rotated token' := by
    intro j token' hj
    by_cases hji : j = i
    · subst hji
      simp at hj
    · rw [Function.update_of_ne hji] at hj
      exact hji (h.single j token' i token hj hi)
  refine ⟨h.newest,⟨token,hfiles,?_⟩,fun j text hj => ?_,fun j token' hj => absurd hj (hnone j token'),
    fun j token' hj => absurd hj (hnone j token'),fun j token' hj => absurd hj (hnone j token'),
    fun j token' hj => absurd hj (hnone j token'),fun j token' _ _ hj => absurd hj (hnone j token'),fun _ => ?_⟩
  · rw [hvalid]
    exact h.valid_issued
  · by_cases hji : j = i
    · subst hji
      simp at hj
    · exact h.holding j text (by rwa [Function.update_of_ne hji] at hj)
  · rw [← hvalid]
    exact hfiles

end Moves

end Invariant

section Device
variable {π : Type} {secrets : SecretsProvider} {leaf : String} {s : RefreshState π}

theorem fetchSecret_store {files files' : String → Option String} {value text : String}
    (hread : secrets.fetchSecret files leaf = .ok text) (hstore : secrets.storeSecret files leaf value = .ok files') :
    secrets.fetchSecret files' leaf = secrets.readText value := by
  have hname : (secrets = .dir && !SecretsProvider.isLeaf leaf) = false := by
    by_contra hne
    rw [SecretsProvider.fetchSecret,if_pos (by simpa using hne)] at hread
    cases hread
  unfold SecretsProvider.storeSecret at hstore
  split at hstore
  · cases hstore
  · rw [hname] at hstore
    cases hstore
    simp [SecretsProvider.fetchSecret,hname]

theorem storeSecret_ok {files : String → Option String} {text : String} (value : String) (hrotatable : secrets.isRotatable = true)
    (hread : secrets.fetchSecret files leaf = .ok text) : ∃ files', secrets.storeSecret files leaf value = .ok files' := by
  have hname : (secrets = .dir && !SecretsProvider.isLeaf leaf) = false := by
    by_contra hne
    rw [SecretsProvider.fetchSecret,if_pos (by simpa using hne)] at hread
    cases hread
  have hwritable : secrets ≠ .readOnly := by simpa [SecretsProvider.isRotatable] using hrotatable
  rw [SecretsProvider.storeSecret,if_neg hwritable,hname]
  exact ⟨_,rfl⟩

theorem fresh_spec {token : String} (h : s.fresh secrets token = true) :
    token ≠ "" ∧ token ∉ s.issued ∧ secrets.readText token = .ok token := by
  unfold RefreshState.fresh at h
  rcases hread : secrets.readText token with e | text
  · simp [hread] at h
  · simp only [hread,Bool.and_eq_true,decide_eq_true_eq] at h
    obtain ⟨⟨hne,hnew⟩,rfl⟩ := h
    exact ⟨hne,by simpa using hnew,rfl⟩

inductive Exchanged (secrets : SecretsProvider) (request : TokenRequest) (s : RefreshState π) :
    Except CredentialError Json × RefreshState π → Prop
  | refused (exception : String) : Exchanged secrets request s (.error (.urlError exception),s)
  | kept (a : TokenAnswer) (hsent : request.refreshToken = s.valid) : Exchanged secrets request s (.ok (a.payload request none),s)
  | rotated (a : TokenAnswer) (token : String) (hsent : request.refreshToken = s.valid) (hne : token ≠ "") (hnew : token ∉ s.issued)
      (hread : secrets.readText token = .ok token) :
      Exchanged secrets request s (.ok (a.payload request (some token)),{ s with valid := token, issued := token :: s.issued })

theorem exchange_exchanged (request : TokenRequest) (answer : Option TokenAnswer) (s : RefreshState π) :
    Exchanged secrets request s (exchange secrets request answer s) := by
  cases answer with
  | none => exact .refused _
  | some a =>
    unfold exchange
    dsimp only
    split
    · rename_i hsent
      cases hsuccessor : a.successor.filter (s.fresh secrets) with
      | none => exact .kept a hsent
      | some token =>
        obtain ⟨-,hfresh⟩ := Option.filter_eq_some_iff.mp hsuccessor
        obtain ⟨hne,hnew,hread⟩ := fresh_spec hfresh
        exact .rotated a token hsent hne hnew hread
    · exact .refused _

end Device
section Preservation
variable {π ι : Type} [DecidableEq π] {secrets : SecretsProvider} {leaf : String} {s : RefreshState π}
  {l : ι → RefreshStage}

theorem Chain.hears (h : Chain secrets leaf s l) (hrotatable : secrets.isRotatable = true) {i : ι} {o : RefreshOp π}
    (x : o.Input) (hmay : refreshMay leaf (l i) o) : refreshHeard o (performRefresh secrets o x s).1 := by
  cases o with
  | cached self name => trivial
  | fetchSecret name => trivial
  | urlopen request =>
    have hexchanged : Exchanged secrets request (s.later x.1) (exchange secrets request x.2 (s.later x.1)) :=
        exchange_exchanged request x.2 (s.later x.1)
    intro body hbody
    generalize hout : exchange secrets request x.2 (s.later x.1) = out at hexchanged
    have hreply : out.1 = .ok body := by rw [← hout]; exact hbody
    cases hexchanged with
    | refused exception => cases hreply
    | kept a hsent =>
      cases hreply
      exact ⟨a,none,rfl,fun token h => by cases h⟩
    | rotated a token hsent hne hnew hread =>
      cases hreply
      refine ⟨a,some token,rfl,fun token' h => ?_⟩
      cases h
      refine ⟨hne,fun hsame => hnew ?_⟩
      rw [hsame,hsent]
      exact (h.later x.1).valid_issued
  | read body => exact ⟨_,rfl⟩
  | storeSecret name value =>
    obtain ⟨text,htext,-⟩ := h.stored
    obtain ⟨rfl,-⟩ := stage_of_store hmay
    obtain ⟨files,hfiles⟩ := storeSecret_ok value hrotatable htext
    simp only [performRefresh,hfiles]
    rfl
  | remember self name accessToken lifetime => trivial

variable [DecidableEq ι]

theorem Chain.performed (h : Chain secrets leaf s l) (hrotatable : secrets.isRotatable = true) {i : ι} {o : RefreshOp π}
    (x : o.Input) (hmay : refreshMay leaf (l i) o) :
    Chain secrets leaf (performRefresh secrets o x s).2
      (Function.update l i (refreshNext (l i) o (performRefresh secrets o x s).1)) := by
  have hstays : ∀ {s' : RefreshState π} {l' : RefreshStage}, Chain secrets leaf s' l → l' = l i →
      Chain secrets leaf s' (Function.update l i l') := by
    rintro s' l' hchain rfl
    rwa [Function.update_eq_self]
  cases hstage : l i with
  | idle =>
    rw [hstage] at hmay
    rcases hmay with ⟨self,rfl⟩ | rfl
    · exact hstays (h.later x) hstage.symm
    · obtain ⟨text,hread,-⟩ := h.stored
      simp only [performRefresh,hread]
      exact (h.later x).fetched hstage hread
  | holding sent =>
    rw [hstage] at hmay
    rcases hmay with ⟨name,rfl⟩ | ⟨request,rfl,hsent⟩
    · exact hstays (h.later x) hstage.symm
    · have hexchanged : Exchanged secrets request (s.later x.1) (exchange secrets request x.2 (s.later x.1)) :=
        exchange_exchanged request x.2 (s.later x.1)
      rw [performRefresh]
      generalize exchange secrets request x.2 (s.later x.1) = out at hexchanged
      cases hexchanged with
      | refused exception => exact hstays (h.later x.1) hstage.symm
      | kept a hvalid =>
        have hstage : l i = .holding (s.later x.1).valid := by rw [hstage,← hsent,hvalid]
        have hnone := (h.later x.1).kept hstage
        have hrotated : rotatedIn request (a.payload request none) = none := rotatedIn_payload fun token h => by cases h
        simpa only [refreshNext,hrotated,RefreshStage.ofRotation] using hnone
      | rotated a token hvalid hne hnew hread =>
        have hstage : l i = .holding (s.later x.1).valid := by rw [hstage,← hsent,hvalid]
        have hnone := (h.later x.1).rotate hstage hnew hread
        have hrotated : rotatedIn request (a.payload request (some token)) = some token := by
          refine rotatedIn_payload fun token' hsome => ?_
          cases hsome
          refine ⟨hne,fun hsame => hnew ?_⟩
          rw [hsame,hvalid]
          exact (h.later x.1).valid_issued
        simpa only [refreshNext,hrotated,RefreshStage.ofRotation] using hnone
  | rotated token =>
    rw [hstage] at hmay
    rcases hmay with ⟨body,rfl⟩ | rfl
    · exact hstays (h.later x) hstage.symm
    · obtain ⟨text,hread,-⟩ := h.stored
      obtain ⟨files,hfiles⟩ := storeSecret_ok token hrotatable hread
      simp only [performRefresh,hfiles]
      exact (h.later x).persisted hstage ((fetchSecret_store hread hfiles).trans (h.readable i token hstage))
  | settled =>
    rw [hstage] at hmay
    rcases hmay with ⟨body,rfl⟩ | ⟨self,token,lifetime,rfl⟩
    · exact hstays (h.later x) hstage.symm
    · exact hstays ((h.later x).keep _ _ _) hstage.symm

def Standing (secrets : SecretsProvider) (leaf : String) (s : RefreshState π) (l : ι → RefreshStage)
    (tr : List (Event ι (RefreshOp π) RefreshOp.Ret CredentialError)) : Prop :=
  Chain secrets leaf s l ∧ ∀ i, Accounts leaf (own i tr) (l i)

theorem preserved_refresh {G : Guard ι (RefreshOp π) RefreshOp.Ret CredentialError (RefreshState π) String}
    (hrotatable : secrets.isRotatable = true) :
    Preserved (refreshDevice secrets) G (fun _ => refreshContract leaf) (fun _ => Ended) (Standing (ι := ι) secrets leaf) := by
  refine ⟨fun c l tr i o x _ hinv hmay => hinv.1.hears hrotatable x hmay,fun c l tr i o k x _ _ _ hinv hmay => ?_⟩
  refine ⟨hinv.1.performed hrotatable x hmay,fun j => ?_⟩
  rw [own_concat]
  by_cases hj : i = j
  · subst hj
    rw [if_pos rfl,Function.update_self]
    exact (hinv.2 i).next hmay (hinv.1.hears hrotatable x hmay)
  · rw [if_neg hj,Function.update_of_ne fun h => hj h.symm]
    exact hinv.2 j

end Preservation

end Runtime.TokenChain

end SafeAgents
