import DiscordRest.Client
import DiscordRest.Proofs.Http.Target
import DiscordRest.Proofs.Url.Shape

/-!
Settings that pass their check. The check reads the root as a URL, but does not ask whether paths
can lie below it, nor whether the user agent is fit for a header; a client needs both.
-/

namespace DiscordRest.Settings

variable {settings : Settings}

/-- The check passes where the root is a URL and neither the page size nor the timeout is zero. -/
theorem check_eq_ok_iff
    : settings.check = .ok ()
      ↔ (∃ root, Url.ofText settings.baseUrl = .ok root)
        ∧ settings.pageSize ≠ 0
        ∧ settings.timeout ≠ 0 := by
  unfold check
  split
  · rename_i unread
    simp [unread]
  · rename_i root read
    rw [read]
    split
    · rename_i empty
      simp [empty]
    · rename_i some_room
      split
      · rename_i noTime
        simp [noTime]
      · rename_i some_time
        simp [some_room, some_time]

@[simp] theorem baseUrl_router (settings : Settings)
    : settings.router.baseUrl = settings.baseUrl := by
  unfold router
  split <;> rfl

@[simp] theorem userAgent_router (settings : Settings)
    : settings.router.userAgent = settings.userAgent.getD Http.defaultUserAgent := by
  unfold router
  split <;> rfl

/-- The user agent is fit for a header where none is named, or the one that is named is fit. -/
theorem isValue_userAgent_iff
    : Http.Header.isValue (settings.userAgent.getD Http.defaultUserAgent) = true
      ↔ ∀ agent ∈ settings.userAgent, Http.Header.isValue agent = true := by
  cases settings.userAgent with
  | some agent => simp
  | none =>
      have fits : Http.Header.isValue Http.defaultUserAgent = true := by decide +kernel
      simpa using fits

/-- A root that was read makes a client, unless it is no base or the user agent is unfit. -/
theorem ofSettings_of_read {root : Url} (read : Url.ofText settings.baseUrl = .ok root)
    : Client.ofSettings settings
      = if root.cannotBeBase then
          .error (.configuration ("Base URL cannot be a base: " ++ settings.baseUrl))
        else if Http.Header.isValue (settings.userAgent.getD Http.defaultUserAgent) then
          .ok ⟨⟨settings.router, root⟩⟩
        else .error (.http (.invalidRequest none)) := by
  rw [Client.ofSettings, Http.Router.ofSettings, baseUrl_router, userAgent_router, read]
  dsimp only
  split
  · rfl
  · split <;> rfl

/-- A client has the router of its settings. -/
theorem ofSettings_router {client : Client} (made : Client.ofSettings settings = .ok client)
    : Http.Router.ofSettings settings.router = .ok client.router := by
  unfold Client.ofSettings at made
  cases routed : Http.Router.ofSettings settings.router with
  | error failure =>
      rw [routed] at made
      contradiction
  | ok router =>
      rw [routed] at made
      obtain rfl := Except.ok.inj made
      rfl

/--
Settings that pass their check make a client exactly where a slash follows the scheme of their
root, as in every web address, and the user agent that they name, if any, is fit for a header. The
check overlooks both, and the client fails with what was overlooked.
-/
theorem checked_makes_client_iff (checked : settings.check = .ok ())
    : ∃ root,
        Url.ofText settings.baseUrl = .ok root
        ∧ ((∃ client, Client.ofSettings settings = .ok client)
          ↔ root.IsHierarchical
            ∧ ∀ agent ∈ settings.userAgent, Http.Header.isValue agent = true)
        ∧ (Url.isSpecial root.scheme = true → root.IsHierarchical)
        ∧ (¬root.IsHierarchical
          → Client.ofSettings settings
            = .error (.configuration ("Base URL cannot be a base: " ++ settings.baseUrl)))
        ∧ (root.IsHierarchical
          → (∃ agent ∈ settings.userAgent, Http.Header.isValue agent = false)
          → Client.ofSettings settings = .error (.http (.invalidRequest none))) := by
  obtain ⟨⟨root, read⟩, _⟩ := check_eq_ok_iff.mp checked
  have base := Url.isHierarchical_iff read
  have hosted := (Url.shape_of_ofText read).2
  have made := ofSettings_of_read read
  refine ⟨root, read, ?_, ?_, ?_, ?_⟩
  · rw [made, base, ← isValue_userAgent_iff]
    cases root.cannotBeBase with
    | true => simp
    | false =>
        cases Http.Header.isValue (settings.userAgent.getD Http.defaultUserAgent) <;> simp
  · intro special
    obtain ⟨host, present⟩ := Option.isSome_iff_exists.mp (hosted special)
    exact base.mpr (by simp [Url.cannotBeBase, present])
  · intro noBase
    rw [made, if_pos (by simpa using base.not.mp noBase)]
  · rintro hierarchical ⟨agent, named, unfit⟩
    have noValue : ¬Http.Header.isValue (settings.userAgent.getD Http.defaultUserAgent) = true := by
      rw [isValue_userAgent_iff]
      exact fun fits => absurd (fits agent named) (by simp [unfit])
    rw [made, if_neg (by simp [base.mp hierarchical]), if_neg noValue]

/-- Settings with a user agent of two lines pass their check and make no client. -/
theorem checked_makes_client_iff_of_line_break
    : let settings : Settings :=
        { (default : Settings) with
          baseUrl := "http://mock.test/api"
          userAgent := some "tester\nof routers" }
      let root : Url :=
        ⟨"http".toList, [], [], some (.name "mock.test".toList), none, .segments ["api".toList],
          none, none⟩
      settings.check = .ok ()
      ∧ Url.ofText settings.baseUrl = .ok root
      ∧ Url.isSpecial root.scheme = true
      ∧ root.IsHierarchical
      ∧ Client.ofSettings settings = .error (.http (.invalidRequest none)) := by
  intro settings root
  have read : Url.ofText settings.baseUrl = .ok root := by decide +kernel
  have checked : settings.check = .ok () :=
    check_eq_ok_iff.mpr ⟨⟨root, read⟩, by decide, by decide⟩
  have web : Url.isSpecial root.scheme = true := by decide
  obtain ⟨found, again, _, special, _, unfit⟩ := checked_makes_client_iff checked
  obtain rfl : root = found := Except.ok.inj (read.symm.trans again)
  exact ⟨checked, read, web, special web,
    unfit (special web) ⟨"tester\nof routers", rfl, by decide⟩⟩

/-- Not all settings that pass their check make a client: their root may be a mail address. -/
theorem not_forall_checked_makes_client
    : ¬∀ settings : Settings,
        settings.check = .ok () → ∃ client, Client.ofSettings settings = .ok client := by
  intro makes
  let mailbox : Url :=
    ⟨"mailto".toList, [], [], none, none, .whole "someone@example.com".toList, none, none⟩
  have read : Url.ofText "mailto:someone@example.com" = .ok mailbox := by decide +kernel
  obtain ⟨client, made⟩ := makes
    { (default : Settings) with baseUrl := "mailto:someone@example.com" }
    (check_eq_ok_iff.mpr ⟨⟨mailbox, read⟩, by decide, by decide⟩)
  rw [ofSettings_of_read read] at made
  cases made

end DiscordRest.Settings
