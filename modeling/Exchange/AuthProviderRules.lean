import Exchange.AuthRules

/-! The ways to log in without a password, refreshes and revocations follow the
rules of authentication, and so does every request. -/
namespace Exchange.Auth.Service
open Ledger (UserId)
open Async

variable {config : Config} {request : Request} {past later : Past} {call : AuthCall} {userId : UserId} {user : User}

/-! ## Email codes -/

theorem rejectOtp_follows {email : Text} {id : ℕ} {ip : Option Text} (free : Free past) :
    Follows config request past (rejectOtp email id ip) fun _ _ => True := by
  unfold rejectOtp
  refine (follows_ask rfl free).seq fun updated later _ free _ => ?_
  refine (follows_ask rfl free).seq fun _ later _ free _ => ?_
  split <;> exact free

theorem consumeOtp_follows {email code : Text} {purpose : EmailOtpPurpose} {ip : Option Text} (free : Free past) :
    Follows config request past (consumeOtp email code purpose ip) fun _ _ => True := by
  unfold consumeOtp
  refine (follows_ask rfl free).seq fun found later _ free _ => ?_
  cases found with
  | none => exact free
  | some row =>
    refine (follows_ask rfl free).seq fun now later _ free _ => ?_
    split
    · exact free
    split
    · exact free
    split
    · exact free
    split
    · exact rejectOtp_follows free
    · exact (follows_ask rfl free).seq fun _ later _ free _ => ⟨free, trivial⟩

theorem markEmailVerified_follows (free : Free past) :
    Follows config request past (markEmailVerified userId user) fun _ _ => True := by
  unfold markEmailVerified
  split
  · exact (follows_ask rfl free).weaken fun _ later _ _ => trivial
  · exact ⟨free, trivial⟩

theorem resolveOtpUser_follows {email : Text} {existing : Option (UserId × User)} {code : Text} {ctx : AuthContext}
    (read : ∀ row, existing = some row → row ∈ past.filterMap readUser) (free : Free past) :
    Follows config (.verifyOtp email code ctx) past (resolveOtpUser (normalizeEmail email) existing)
      fun userId later => Admitted config (.verifyOtp email code ctx) userId later := by
  cases existing with
  | none =>
    refine (follows_ask rfl free).seq ?_
    rintro ⟨userId, user⟩ later - free rfl
    refine (follows_ask rfl free).seq fun _ later' grown free _ => ⟨free, ?_⟩
    exact .created ((grown.filterMap _).subset (by simp [newUser]; exact .inl rfl)) rfl
  | some row =>
    obtain ⟨userId, user⟩ := row
    refine (assertMayLogin_follows free).seq ?_
    rintro _ later - free ⟨rfl, active, present⟩
    refine (markEmailVerified_follows free).seq fun _ later' grown free _ => ⟨free, ?_⟩
    exact .read ((grown.filterMap _).subset (read _ rfl)) active present

theorem verifyOtp_follows {email code : Text} {ctx : AuthContext} (free : Free past) :
    Follows config (.verifyOtp email code ctx) past (verifyOtp config email code ctx) fun _ _ => True := by
  unfold verifyOtp
  refine (ensureLoginLocation_follows free).seq fun _ later _ free _ => ?_
  refine (follows_ask rfl free).seq ?_
  rintro existing later - free rfl
  refine (consumeOtp_follows free).seq fun _ later' grown free _ => ?_
  have read : ∀ row, existing = some row → row ∈ later'.filterMap readUser := by
    rintro row rfl
    exact (grown.filterMap _).subset (by simp [readUser])
  refine (resolveOtpUser_follows read free).seq fun userId later _ free admitted => ?_
  refine (follows_ask rfl free).seq fun _ later grown free _ => ?_
  exact (issueSession_follows rfl (admitted.grow grown) free).seq fun _ later _ free _ => ⟨free, trivial⟩

/-! ## Google -/

theorem googleStart_follows (free : Free past) :
    Follows config request past (googleStart config) fun _ _ => True := by
  unfold googleStart
  split
  · refine (follows_ask rfl free).seq fun _ later _ free _ => ?_
    exact (follows_ask rfl free).seq fun _ later _ free _ => ⟨free, trivial⟩
  · exact free

/-- A user who was read or created. -/
def Known (row : UserId × User) (past : Past) : Prop :=
  row ∈ past.filterMap readUser ∨ row ∈ past.filterMap newUser

theorem resolveGoogleUser_follows {profile : GoogleProfile} (free : Free past) :
    Follows config request past (resolveGoogleUser profile) Known := by
  unfold resolveGoogleUser
  refine (follows_ask rfl free).seq ?_
  rintro linked later - free rfl
  cases linked with
  | some row => exact ⟨free, .inl (by simp [readUser])⟩
  | none =>
    dsimp only
    split
    · exact free
    refine (follows_ask rfl free).seq ?_
    rintro existing later' - free rfl
    cases existing with
    | none =>
      refine (follows_ask rfl free).weaken fun row later _ isLater => .inr ?_
      subst isLater
      simp [newUser]
    | some row =>
      obtain ⟨userId, user⟩ := row
      dsimp only
      split
      · exact free
      refine (follows_ask rfl free).seq fun _ later grown free _ => ⟨free, .inl ?_⟩
      exact (grown.filterMap _).subset (by simp [readUser])

theorem googleCallback_follows {code : Text} {state : Token} (free : Free past) :
    Follows config (.googleCallback code state) past (googleCallback config code state) fun _ _ => True := by
  unfold googleCallback
  split
  · refine (follows_ask rfl free).seq fun verifier later _ free _ => ?_
    cases verifier with
    | none => exact free
    | some value =>
      refine (follows_ask rfl free).seq fun profile later _ free _ => ?_
      refine (resolveGoogleUser_follows free).seq ?_
      rintro ⟨userId, user⟩ later - free known
      dsimp only
      split
      · exact free
      rename_i active
      have admitted : Admitted config (.googleCallback code state) userId later := by
        rcases known with read | created
        · exact .read read (not_not.mp active) trivial
        · exact .created created rfl
      refine (issueSession_follows rfl admitted free).seq fun tokens later _ free _ => ?_
      refine (follows_ask rfl free).seq fun exchange later _ free _ => ?_
      exact (follows_ask rfl free).seq fun _ later _ free _ => ⟨free, trivial⟩
  · exact free

theorem oauthExchange_follows {code : Token} (free : Free past) :
    Follows config request past (oauthExchange code) fun _ _ => True := by
  unfold oauthExchange
  refine (follows_ask rfl free).seq fun stored later _ free _ => ?_
  split
  · exact ⟨free, trivial⟩
  · exact free

/-! ## Federated identities -/

theorem issueChallenge_follows {payload : ChallengePayload} (free : Free past) :
    Follows config request past (issueChallenge payload) fun _ _ => True := by
  unfold issueChallenge
  refine (follows_ask rfl free).seq fun token later _ free _ => ?_
  exact (follows_ask rfl free).seq fun _ later _ free _ => ⟨free, trivial⟩

theorem consumeChallenge_follows {token : Token} {expected : ChallengePayload → Bool} (free : Free past) :
    Follows config request past (consumeChallenge token expected) fun _ _ => True := by
  unfold consumeChallenge
  refine (follows_ask rfl free).seq fun raw later _ free _ => ?_
  split
  · split
    · exact (follows_ask rfl free).seq fun stillThere later _ free _ => ⟨free, trivial⟩
    · exact ⟨free, trivial⟩
  · exact ⟨free, trivial⟩

theorem authenticateExistingUser_follows {ctx : AuthContext} (challenges : Challenges request)
    (read : (userId, user) ∈ past.filterMap readUser) (free : Free past) :
    Follows config request past (authenticateExistingUser config userId user ctx) fun _ _ => True := by
  unfold authenticateExistingUser
  refine (assertMayLogin_follows free).seq ?_
  rintro _ later - free ⟨rfl, active, present⟩
  refine (markEmailVerified_follows free).seq fun _ later' grown free _ => ?_
  refine (ensureLoginLocation_follows free).seq fun _ later'' grown' free _ => ?_
  exact startSession_follows challenges (((grown.trans grown').filterMap _).subset read) active present free

theorem challengeUnlinked_follows {verified : VerifiedFederatedIdentity} (free : Free past) :
    Follows config request past (challengeUnlinked verified) fun _ _ => True := by
  unfold challengeUnlinked
  refine (follows_ask rfl free).seq fun existing later _ free _ => ?_
  cases existing with
  | none => exact (issueChallenge_follows free).seq fun _ later _ free _ => ⟨free, trivial⟩
  | some row => exact (issueChallenge_follows free).seq fun _ later _ free _ => ⟨free, trivial⟩

theorem loginLegacy_follows {verified : VerifiedFederatedIdentity} {ctx : AuthContext}
    (challenges : Challenges request) (free : Free past) :
    Follows config request past (loginLegacy config verified ctx) fun _ _ => True := by
  unfold loginLegacy
  split
  · refine (follows_ask rfl free).seq ?_
    rintro legacy later - free rfl
    cases legacy with
    | none => exact challengeUnlinked_follows free
    | some row =>
      obtain ⟨userId, user⟩ := row
      refine (authenticateExistingUser_follows challenges (by simp [readUser]) free).seq
        fun result later _ free _ => ?_
      exact (follows_attempt () (follows_ask rfl free)).seq fun _ later _ free _ => ⟨free, trivial⟩
  · exact challengeUnlinked_follows free

theorem verifyIdToken_follows {idToken : Text} {failing : Failure → Failure} (free : Free past) :
    Follows config request past (tryCatch (ask (.verifyIdToken idToken)) fun failure => throw (failing failure))
      fun _ _ => True := by
  refine obeys_tryCatch.mpr ((follows_ask rfl free).imp fun later result ended => ?_)
  cases result with
  | ok value => exact ⟨ended.1, trivial⟩
  | error failure => exact ended

theorem federatedLogin_follows {idToken : Text} {provider : FederatedProvider} {ctx : AuthContext}
    (challenges : Challenges request) (free : Free past) :
    Follows config request past (federatedLogin config idToken provider ctx) fun _ _ => True := by
  unfold federatedLogin
  split
  · exact free
  refine (verifyIdToken_follows free).seq fun verified later _ free _ => ?_
  split
  · exact free
  split
  · exact free
  refine (follows_ask rfl free).seq ?_
  rintro linked later - free rfl
  cases linked with
  | none => exact loginLegacy_follows challenges free
  | some row =>
    obtain ⟨userId, user⟩ := row
    exact (authenticateExistingUser_follows challenges (by simp [readUser]) free).seq
      fun result later _ free _ => ⟨free, trivial⟩

theorem requestLinkOtp_follows {challengeToken : Token} {code : Text} (free : Free past) :
    Follows config request past (requestLinkOtp challengeToken code) fun _ _ => True := by
  unfold requestLinkOtp
  refine (follows_ask rfl free).seq fun raw later _ free _ => ?_
  split
  · refine (follows_ask rfl free).seq fun now later _ free _ => ?_
    exact (follows_ask rfl free).weaken fun _ later _ _ => trivial
  · exact free

theorem consumeLinkOtp_follows {challengeToken : Token} {email otp : Text} (free : Free past) :
    Follows config request past (consumeLinkOtp challengeToken email otp) fun _ _ => True := by
  unfold consumeLinkOtp
  refine (follows_ask rfl free).seq fun raw later _ free _ => ?_
  split
  · refine (follows_ask rfl free).seq fun now later _ free _ => ?_
    split
    · exact (follows_ask rfl free).seq fun _ later _ free _ => free
    split
    · exact (follows_ask rfl free).seq fun _ later _ free _ => free
    split
    · exact (follows_ask rfl free).seq fun _ later _ free _ => free
    · exact (follows_ask rfl free).weaken fun _ later _ _ => trivial
  · exact free

theorem confirmLink_follows {challengeToken : Token} {otp : Text} {ctx : AuthContext}
    (challenges : Challenges request) (free : Free past) :
    Follows config request past (confirmLink config challengeToken otp ctx) fun _ _ => True := by
  unfold confirmLink
  refine (consumeChallenge_follows free).seq fun payload later _ free _ => ?_
  split
  · rename_i existingUserId
    refine (consumeLinkOtp_follows free).seq fun _ later _ free _ => ?_
    refine (follows_ask rfl free).seq ?_
    rintro found later - free rfl
    cases found with
    | none => exact free
    | some user =>
      refine (follows_ask rfl free).seq fun _ later' grown free _ => ?_
      have read : (existingUserId, user) ∈ later'.filterMap readUser :=
        (grown.filterMap _).subset (by simp [readUser])
      exact (authenticateExistingUser_follows challenges read free).seq fun result later _ free _ => ⟨free, trivial⟩
  · exact free

theorem completeRegistration_follows {challengeToken : Token} {ctx : AuthContext} (free : Free past) :
    Follows config (.completeRegistration challengeToken ctx) past (completeRegistration config challengeToken ctx)
      fun _ _ => True := by
  unfold completeRegistration
  refine (consumeChallenge_follows free).seq fun payload later _ free _ => ?_
  split
  · refine (follows_ask rfl free).seq ?_
    rintro ⟨userId, user⟩ later - free rfl
    refine (follows_ask rfl free).seq fun _ later' grown free _ => ?_
    refine (ensureLoginLocation_follows free).seq fun _ later'' grown' free _ => ?_
    have admitted : Admitted config (.completeRegistration challengeToken ctx) userId later'' :=
      .created (((grown.trans grown').filterMap _).subset (by simp [newUser]; exact .inl rfl)) rfl
    exact (issueSession_follows rfl admitted free).seq fun _ later _ free _ => ⟨free, trivial⟩
  · exact free

/-! ## Refresh tokens -/

variable {token : RefreshToken}

theorem refused_session (session : AuthSession) (read : ⟨.findSessionById token.sid, .ok (some session)⟩ ∈ past) :
    Refused token (⟨.revokeFamily session.familyId, .ok ()⟩ :: past) :=
  .session (List.mem_cons_of_mem _ read) List.mem_cons_self

theorem rejectReuse_obeys {α : Type} {familyId : FamilyId} {sessionId : SessionId} {message : String}
    (refused : Refused token (⟨.revokeFamily familyId, .ok ()⟩ :: past)) (free : Free past) :
    (rejectReuse config familyId sessionId message : AuthM α).Obeys (May config (.refresh token))
      (EndsWith (fun later => Free later ∧ Refused token later) fun _ _ => False) past := by
  unfold rejectReuse handleReuse
  refine obeys_bind.mpr (obeys_bind.mpr (obeys_call.mpr ⟨.revokeFamily rfl free, ?_⟩))
  rintro (failure | _)
  · exact ⟨rfl, .lost ⟨_, failure, List.mem_cons_self⟩⟩
  refine obeys_call.mpr ⟨.neutral rfl rfl, ?_⟩
  rintro (failure | _)
  · exact ⟨rfl, .lost ⟨_, failure, List.mem_cons_self⟩⟩
  · exact ⟨rfl, refused.grow (List.suffix_cons _ _)⟩

theorem rotate_obeys {session : AuthSession} (held : session.refreshHash = token) :
    (rotate config token session).Obeys (May config (.refresh token))
      (EndsWith (fun later => Free later ∧ Refused token later) fun _ later => Free later ∧ Rotated token later)
      [⟨.findSessionById token.sid, .ok (some session)⟩] := by
  unfold rotate
  refine obeys_bind.mpr (obeys_call.mpr ⟨.neutral rfl rfl, ?_⟩)
  rintro (failure | found)
  · exact ⟨rfl, .lost ⟨_, failure, List.mem_cons_self⟩⟩
  dsimp only
  split
  · exact ⟨rfl, .inactive (List.mem_cons_of_mem _ List.mem_cons_self) held⟩
  refine obeys_bind.mpr (obeys_call.mpr ⟨.neutral rfl rfl, ?_⟩)
  rintro (failure | now)
  · exact ⟨rfl, .lost ⟨_, failure, List.mem_cons_self⟩⟩
  refine obeys_bind.mpr (obeys_call.mpr ⟨.rotate rfl (by simp) (by simp [Swapped]) rfl, ?_⟩)
  rintro (failure | ⟨count, newToken⟩)
  · exact ⟨rfl, .lost ⟨_, failure, List.mem_cons_self⟩⟩
  dsimp only
  split
  · refine (rejectReuse_obeys (refused_session session (by simp)) (by rfl)).imp ?_
    rintro later (failure | value) ended
    · exact ended
    · exact ended.elim
  · rename_i swapped
    exact ⟨rfl, _, _, _, count, newToken, List.mem_cons_self, swapped⟩

theorem refresh_obeys : (refresh config token).Obeys (May config (.refresh token))
    (EndsWith (fun later => Free later ∧ Refused token later) fun _ later => Free later ∧ Rotated token later) [] := by
  have rejected : ∀ found, (rejectReuse config token.fid token.sid "Refresh token rejected" : AuthM TokenPair).Obeys
      (May config (.refresh token))
      (EndsWith (fun later => Free later ∧ Refused token later) fun _ later => Free later ∧ Rotated token later)
      [⟨.findSessionById token.sid, found⟩] := by
    intro found
    refine (rejectReuse_obeys (.family List.mem_cons_self) (by rfl)).imp ?_
    rintro later (failure | value) ended
    · exact ended
    · exact ended.elim
  unfold refresh attempt
  refine obeys_bind.mpr (obeys_tryCatch.mpr (obeys_call.mpr ⟨.neutral rfl rfl, ?_⟩))
  rintro (failure | found)
  · exact rejected _
  dsimp only
  cases isFound : found.filter fun session => session.revokedAt.isNone with
  | none => exact rejected _
  | some session =>
    obtain ⟨rfl, -⟩ := Option.filter_eq_some_iff.mp isFound
    dsimp only
    split
    · refine (rejectReuse_obeys (refused_session session (by simp)) (by rfl)).imp ?_
      rintro later (failure | value) ended
      · exact ended
      · exact ended.elim
    · rename_i held
      exact rotate_obeys (not_not.mp held)

/-! ## Logout and passwords -/

theorem logout_follows {sessionId : SessionId} (free : Free past) :
    Follows config (.logout sessionId) past (logout config sessionId) fun _ _ => True := by
  unfold logout
  refine obeys_bind.mpr (obeys_call.mpr ⟨.revokeSession rfl free, ?_⟩)
  rintro (failure | _)
  · rfl
  · exact (follows_ask rfl (by rfl)).weaken fun _ later _ _ => trivial

theorem revokeSession_follows {sessionId : SessionId} (free : Free past) :
    Follows config (.revokeSession userId sessionId) past (revokeSession config userId sessionId)
      fun _ _ => True := by
  unfold revokeSession
  refine obeys_bind.mpr (obeys_call.mpr ⟨.revokeSessionForUser rfl free, ?_⟩)
  rintro (failure | count)
  · rfl
  dsimp only
  split
  · rfl
  · exact (follows_ask rfl (by rfl)).weaken fun _ later _ _ => trivial

theorem resetPassword_follows {resetToken : Token} {newPassword : Password} (free : Free past) :
    Follows config (.resetPassword resetToken newPassword) past (resetPassword config resetToken newPassword)
      fun _ later => ∃ userId, ⟨.redisGetDel (.reset resetToken), .ok (some (.userId userId))⟩ ∈ later ∧
        Swept userId none later := by
  unfold resetPassword
  refine (follows_ask rfl free).seq ?_
  rintro raw later - free rfl
  split
  · rename_i userId
    refine (follows_ask rfl free).seq fun _ later' grown free _ => ?_
    refine (revokeAllAndDenylist_follows rfl free).weaken fun _ later'' grown' swept => ⟨userId, ?_, swept⟩
    exact (grown.trans grown').subset List.mem_cons_self
  · exact free

theorem changePassword_follows {currentSessionId : SessionId} {currentPassword newPassword : Password}
    (free : Free past) :
    Follows config (.changePassword userId currentSessionId currentPassword newPassword) past
      (changePassword config userId currentSessionId currentPassword newPassword)
      fun _ later => Swept userId (some currentSessionId) later := by
  unfold changePassword
  refine (follows_ask rfl free).seq fun found later _ free _ => ?_
  cases found with
  | none => exact free
  | some user =>
    dsimp only
    split
    · exact free
    exact (follows_ask rfl free).seq fun _ later' grown free _ => revokeAllAndDenylist_follows rfl free

/-! ## Requests -/

/-- A request that answers as its service does. -/
theorem Follows.answers {α : Type} {program : AuthM α} {fact : α → Past → Prop} {respond : α → Response}
    (follows : Follows config request [] program fact)
    (done : ∀ value later, Free later → fact value later → ends request later (.ok (respond value)))
    (failed : ∀ later failure, Free later → ends request later (.error failure)) :
    (program >>= fun value => (return respond value : AuthM Response)).Obeys (May config request)
      (ends request) [] := by
  refine obeys_bind.mpr (follows.imp fun later result ended => ?_)
  cases result with
  | error failure => exact failed later failure ended
  | ok value => exact done value later ended.1 ended.2

theorem program_obeys (request : Request) :
    (request.program config).Obeys (May config request) (ends request) [] := by
  have free : Free [] := rfl
  cases request with
  | login email password ctx =>
    have challenges : Challenges (.login email password ctx) := ⟨rfl, fun _ _ _ _ present off => ⟨present, off⟩⟩
    exact (login_follows challenges free).answers (fun _ _ free _ => ⟨free, trivial⟩) fun _ _ free => ⟨free, trivial⟩
  | verify2fa challengeToken code ctx =>
    exact (verify2fa_follows free).answers (fun _ _ free _ => ⟨free, trivial⟩) fun _ _ free => ⟨free, trivial⟩
  | verifyOtp email code ctx =>
    exact (verifyOtp_follows free).answers (fun _ _ free _ => ⟨free, trivial⟩) fun _ _ free => ⟨free, trivial⟩
  | googleStart =>
    exact (googleStart_follows free).answers (fun _ _ free _ => ⟨free, trivial⟩) fun _ _ free => ⟨free, trivial⟩
  | googleCallback code state =>
    exact (googleCallback_follows free).answers (fun _ _ free _ => ⟨free, trivial⟩) fun _ _ free => ⟨free, trivial⟩
  | oauthExchange code =>
    exact (oauthExchange_follows free).answers (fun _ _ free _ => ⟨free, trivial⟩) fun _ _ free => ⟨free, trivial⟩
  | federatedLogin idToken provider ctx =>
    have challenges : Challenges (.federatedLogin idToken provider ctx) :=
      ⟨rfl, fun _ _ _ _ present off => ⟨present, off⟩⟩
    exact (federatedLogin_follows challenges free).answers (fun _ _ free _ => ⟨free, trivial⟩)
      fun _ _ free => ⟨free, trivial⟩
  | requestLinkOtp challengeToken code =>
    exact (requestLinkOtp_follows free).answers (fun _ _ free _ => ⟨free, trivial⟩) fun _ _ free => ⟨free, trivial⟩
  | confirmLink challengeToken otp ctx =>
    have challenges : Challenges (.confirmLink challengeToken otp ctx) :=
      ⟨rfl, fun _ _ _ _ present off => ⟨present, off⟩⟩
    exact (confirmLink_follows challenges free).answers (fun _ _ free _ => ⟨free, trivial⟩)
      fun _ _ free => ⟨free, trivial⟩
  | completeRegistration challengeToken ctx =>
    exact (completeRegistration_follows free).answers (fun _ _ free _ => ⟨free, trivial⟩)
      fun _ _ free => ⟨free, trivial⟩
  | refresh refreshToken =>
    refine obeys_bind.mpr (refresh_obeys.imp ?_)
    rintro later (failure | tokens) ended
    · exact ended
    · exact ended
  | logout sessionId =>
    exact (logout_follows free).answers (fun _ _ free _ => ⟨free, trivial⟩) fun _ _ free => ⟨free, trivial⟩
  | revokeSession userId sessionId =>
    exact (revokeSession_follows free).answers (fun _ _ free _ => ⟨free, trivial⟩) fun _ _ free => ⟨free, trivial⟩
  | revokeAllSessionsForSecurityEvent userId =>
    exact (revokeAllAndDenylist_follows rfl free).answers (fun _ _ free _ => ⟨free, trivial⟩)
      fun _ _ free => ⟨free, trivial⟩
  | resetPassword resetToken newPassword =>
    exact (resetPassword_follows free).answers (fun _ _ free swept => ⟨free, swept⟩) fun _ _ free => ⟨free, trivial⟩
  | changePassword userId currentSessionId currentPassword newPassword =>
    exact (changePassword_follows free).answers (fun _ _ free swept => ⟨free, swept⟩) fun _ _ free => ⟨free, trivial⟩
  | elsewhere =>
    exact (follows_ask rfl free).answers (fun _ _ free _ => ⟨free, trivial⟩) fun _ _ free => ⟨free, trivial⟩

theorem isRequest_obeys (requests : ℕ → Request) (pid : ℕ) (program : AuthM Response)
    (isRequest : IsRequest config requests pid program) :
    program.Obeys (May config (requests pid)) (ends (requests pid)) [] := by
  rw [isRequest]
  exact program_obeys (requests pid)

end Exchange.Auth.Service
