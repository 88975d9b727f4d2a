import StuHelper.Lib.Text

/-!
# Access control without a login

`AccessControl` checks a request before it is authenticated.  Four of its checks look at the role of
the request; where there is none and the request has some credential, they leave the decision to a
later middleware, which not every route has.
-/

namespace StuHelper.Routing

open Lib List

inductive AccessPolicyScope where
  | web | api
  deriving DecidableEq

inductive RoleLevel where
  | root | admin | auditAdmin | user | guest

/-- What `requestCountry` finds, as far as the rules tell it. -/
inductive Country where
  | chinaMainland | europeanUnion | other
  deriving DecidableEq

inductive AccessSource where
  | all | chinaMainland | europeanUnion | unknownCountry
  deriving DecidableEq

/-- `RoleGeoAccessRule`, `SourceResourceAccessRule` and `ResourceAccessRule`. -/
structure AccessRule where
  guest : Option Bool := none
  user : Option Bool := none
  auditAdmin : Option Bool := none
  admin : Option Bool := none
  root : Option Bool := none

structure AccessControlSetting where
  apiPolicyEnabled : Bool := false
  webPolicyEnabled : Bool := false
  blockChinaMainland : Bool := false
  blockEuropeanUnion : Bool := false
  blockChinaMainlandHomepage : Bool := false
  blockChinaMainlandUserSensitivePages : Bool := false
  blockGuests : Bool := false
  blockUsers : Bool := false
  blockAdmins : Bool := false
  roleGeoRules : List (AccessSource × AccessRule) := []
  sourceResourceRules : List (AccessSource × List (String × AccessRule)) := []
  resourceRules : List (String × AccessRule) := []

structure AccessDeniedReason where
  kind : String
  source : AccessSource
  resource : String
  /-- Nothing stands for all roles. -/
  role : Option RoleLevel
  scope : AccessPolicyScope

/-- The headers and the query parameter that may hold a credential. -/
structure Credentials where
  authorization : String := ""
  apiKey : String := ""
  mjApiSecret : String := ""
  xApiKey : String := ""
  xGoogApiKey : String := ""
  secWebSocketProtocol : String := ""
  key : String := ""

/-- A request, and what its context holds when it is checked. -/
structure AccessRequest where
  country : Option Country := none
  /-- `resourceKeysForRequest`, `webPathMatchesHomeAccess` and `isChinaMainlandSensitivePath`. -/
  keys : AccessPolicyScope → List String := fun _ => []
  home : Bool := false
  sensitive : AccessPolicyScope → Bool := fun _ => false
  role : Option Int := none
  userRole : Option Int := none
  id : Int := 0
  sessionRole : Option Int := none
  credentials : Credentials := {}

/-- The roles of users in the cache and in the database. -/
structure UserRoles where
  cached : Int → Option Int
  stored : Int → Option Int

def Credentials.hasAPIAuthCredential (credentials : Credentials) : Bool :=
  Text.trimSpace credentials.authorization ≠ "" || Text.trimSpace credentials.apiKey ≠ "" ||
    Text.trimSpace credentials.mjApiSecret ≠ "" || Text.trimSpace credentials.xApiKey ≠ "" ||
    Text.trimSpace credentials.xGoogApiKey ≠ "" ||
    Text.contains "openai-insecure-api-key".toList credentials.secWebSocketProtocol.toList ||
    Text.trimSpace credentials.key ≠ ""

def roleAccessLevel (role : Int) : RoleLevel :=
  if role ≥ 100 then .root else if role ≥ 10 then .admin else if role ≥ 5 then .auditAdmin
  else if role ≥ 1 then .user else .guest

def AccessRule.value (rule : AccessRule) : RoleLevel → Option Bool
  | .root => rule.root
  | .admin => rule.admin
  | .auditAdmin => rule.auditAdmin
  | .user => rule.user
  | .guest => rule.guest

def roleGeoRuleBlocksRole (rule : AccessRule) (level : RoleLevel) : Bool :=
  rule.value level = some true

def sourceResourceRuleBlocksRole : AccessRule → RoleLevel → Bool := roleGeoRuleBlocksRole

def roleGeoSourcesForRequest : Option Country → List AccessSource
  | none => [.all, .unknownCountry]
  | some .chinaMainland => [.all, .chinaMainland]
  | some .europeanUnion => [.all, .europeanUnion]
  | some .other => [.all]

section Checks

variable (setting : AccessControlSetting) (users : UserRoles) (request : AccessRequest)
  (scope : AccessPolicyScope)

def resourceAllowedForRole (resource : String) (role : Int) : Bool :=
  ((setting.resourceRules.lookup resource).bind fun rule =>
    rule.value (roleAccessLevel role)).getD true

/-- Nothing stands for a role that is not known, here and below. -/
def tokenUserRole : Option Int :=
  if request.id > 0 ∧ request.credentials.hasAPIAuthCredential then
    (users.cached request.id).map fun role =>
      if role > 0 then role else (users.stored request.id).getD 1
  else none

def roleOrTokenRole (role : Int) : Option Int :=
  if role ≠ 0 ∨ ¬request.credentials.hasAPIAuthCredential then some role
  else tokenUserRole users request

def currentRequestRole : Option Int :=
  match request.role.or request.userRole with
  | some role => roleOrTokenRole users request role
  | none => (tokenUserRole users request).or request.sessionRole

def currentAuthenticatedRequestRole : Option Int :=
  match request.role.or request.userRole with
  | some role => roleOrTokenRole users request role
  | none => tokenUserRole users request

/-- The role that a check looks at; nothing where the decision is left to a later middleware. -/
def checkedRole : Option Int :=
  (currentRequestRole users request).or
    (if scope = .api ∧ request.credentials.hasAPIAuthCredential then none else some 0)

def blockedByGeo : Option AccessDeniedReason :=
  if setting.blockChinaMainland ∧ request.country = some .chinaMainland then
    some ⟨"geo_china_mainland", .chinaMainland, "all", none, scope⟩
  else if setting.blockEuropeanUnion ∧ request.country = some .europeanUnion then
    some ⟨"geo_european_union", .europeanUnion, "all", none, scope⟩
  else none

def blockedByRoleGeoRule : Option AccessDeniedReason :=
  (checkedRole users request scope).bind fun role =>
    (roleGeoSourcesForRequest request.country).findSome? fun source =>
      if roleGeoRuleBlocksRole ((setting.roleGeoRules.lookup source).getD {})
          (roleAccessLevel role) then
        some ⟨"role_geo", source, "all", roleAccessLevel role, scope⟩
      else none

def blockedBySourceResourceRule : Option AccessDeniedReason :=
  if request.keys scope = [] then none
  else (checkedRole users request scope).bind fun role =>
    (roleGeoSourcesForRequest request.country).findSome? fun source =>
      let rules := (setting.sourceResourceRules.lookup source).getD []
      if sourceResourceRuleBlocksRole ((rules.lookup "all").getD {}) (roleAccessLevel role) then
        some ⟨"source_resource_all", source, "all", roleAccessLevel role, scope⟩
      else (request.keys scope).findSome? fun key =>
        if sourceResourceRuleBlocksRole ((rules.lookup key).getD {}) (roleAccessLevel role) then
          some ⟨"source_resource", source, key, roleAccessLevel role, scope⟩
        else none

def blockedByScopedChinaMainlandPolicy : Option AccessDeniedReason :=
  let denied (kind resource : String) (role : Int) : Option AccessDeniedReason :=
    if role ≥ 5 then none
    else some ⟨kind, .chinaMainland, resource, roleAccessLevel role, scope⟩
  if request.country ≠ some .chinaMainland then none
  else if setting.blockChinaMainlandUserSensitivePages ∧ scope = .api ∧ request.sensitive .api then
    (currentAuthenticatedRequestRole users request).bind
      (denied "china_mainland_sensitive" ((request.keys scope).headD ""))
  else
    let role := (currentRequestRole users request).getD 0
    if setting.blockChinaMainlandHomepage ∧ scope = .web ∧ request.home then
      denied "china_mainland_home" "home" role
    else if setting.blockChinaMainlandUserSensitivePages ∧ request.sensitive scope then
      denied "china_mainland_sensitive" ((request.keys scope).headD "") role
    else none

def blockedByResourceRule : Option AccessDeniedReason :=
  (checkedRole users request scope).bind fun role =>
    (request.keys scope).findSome? fun key =>
      if resourceAllowedForRole setting key role then none
      else some ⟨"resource", .all, key, roleAccessLevel role, scope⟩

def blockedByIdentity : Option AccessDeniedReason :=
  (checkedRole users request scope).bind fun role =>
    let (blocks, kind) := if role ≥ 5 then (setting.blockAdmins, "identity_admins")
      else if role ≥ 1 then (setting.blockUsers, "identity_users")
      else (setting.blockGuests, "identity_guests")
    if blocks then some ⟨kind, .all, "all", roleAccessLevel role, scope⟩ else none

def isAccessPolicyEnabled : Bool :=
  match scope with
  | .web => setting.webPolicyEnabled
  | .api => setting.apiPolicyEnabled

/-- Why the request is refused. -/
def enforceAccessPolicy : Option AccessDeniedReason :=
  if ¬isAccessPolicyEnabled setting scope then none
  else ((((blockedByGeo setting request scope).or
    (blockedByRoleGeoRule setting users request scope)).or
    (blockedBySourceResourceRule setting users request scope)).or
    (blockedByScopedChinaMainlandPolicy setting users request scope)).or
    ((blockedByResourceRule setting users request scope).or
      (blockedByIdentity setting users request scope))

end Checks

/-- A request without a login session, before any authentication. -/
structure Anonymous (request : AccessRequest) : Prop where
  role : request.role = none
  userRole : request.userRole = none
  id : request.id = 0
  sessionRole : request.sessionRole = none

variable {setting : AccessControlSetting} {users : UserRoles} {request : AccessRequest}

theorem Anonymous.unknown (anonymous : Anonymous request) :
    tokenUserRole users request = none ∧ currentRequestRole users request = none ∧
      currentAuthenticatedRequestRole users request = none := by
  have token : tokenUserRole users request = none := if_neg fun both => by
    rw [anonymous.id] at both
    exact absurd both.1 (Int.lt_irrefl 0)
  simp [currentRequestRole, currentAuthenticatedRequestRole, anonymous.role, anonymous.userRole,
    anonymous.sessionRole, token]

/-- With a credential only the country counts. -/
theorem Anonymous.enforce (anonymous : Anonymous request) (enabled : setting.apiPolicyEnabled)
    (credential : request.credentials.hasAPIAuthCredential) :
    enforceAccessPolicy setting users request .api = blockedByGeo setting request .api := by
  obtain ⟨-, current, authenticated⟩ := @anonymous.unknown users
  have later : checkedRole users request .api = none := by simp [checkedRole, current, credential]
  have mainland : blockedByScopedChinaMainlandPolicy setting users request .api = none := by
    simp only [blockedByScopedChinaMainlandPolicy, authenticated]
    split_ifs <;> simp_all
  simp [enforceAccessPolicy, isAccessPolicyEnabled, enabled, blockedByRoleGeoRule,
    blockedBySourceResourceRule, blockedByResourceRule, blockedByIdentity, later, mainland]

theorem Anonymous.enforce_same (anonymous : Anonymous request) {credentials : Credentials}
    (still : Anonymous { request with credentials })
    (same : credentials.hasAPIAuthCredential = request.credentials.hasAPIAuthCredential) :
    enforceAccessPolicy setting users { request with credentials } .api =
      enforceAccessPolicy setting users request .api := by
  obtain ⟨-, current, authenticated⟩ := @anonymous.unknown users
  obtain ⟨-, current', authenticated'⟩ := @still.unknown users
  have checked : checkedRole users { request with credentials } .api =
      checkedRole users request .api := by
    simp [checkedRole, current, current', same]
  simp only [enforceAccessPolicy, blockedByRoleGeoRule, blockedBySourceResourceRule,
    blockedByScopedChinaMainlandPolicy, blockedByResourceRule, blockedByIdentity, checked, current,
    current', authenticated, authenticated']
  rfl

/-- A request that is refused without credentials is refused with the texts of others exactly when
these hold no credential or its country is refused. -/
theorem refused_with_credentials_iff (setting : AccessControlSetting) (users : UserRoles)
    (request : AccessRequest) (anonymous : Anonymous request) (bare : request.credentials = {})
    (refused : (enforceAccessPolicy setting users request .api).isSome)
    (credentials : Credentials) :
    (enforceAccessPolicy setting users { request with credentials } .api).isSome ↔
      credentials.hasAPIAuthCredential = false ∨ (blockedByGeo setting request .api).isSome := by
  have enabled : setting.apiPolicyEnabled = true := by
    by_contra off
    simp [enforceAccessPolicy, isAccessPolicyEnabled, off] at refused
  have none : request.credentials.hasAPIAuthCredential = false := by
    rw [bare]
    decide
  have still : Anonymous { request with credentials } := { anonymous with }
  cases credential : credentials.hasAPIAuthCredential with
  | false => simpa [anonymous.enforce_same still (credential.trans none.symm)] using refused
  | true =>
    rw [still.enforce enabled credential]
    simp [blockedByGeo]

theorem refused_with_blank_credentials :
    (enforceAccessPolicy { apiPolicyEnabled := true, blockGuests := true } ⟨some, some⟩
      { credentials := { authorization := " " } } .api).isSome :=
  (refused_with_credentials_iff _ _ {} ⟨rfl, rfl, rfl, rfl⟩ rfl (by decide) _).mpr
    (.inl (by decide))

/-- Guests are blocked, but not with a credential that is not valid. -/
theorem let_through_with_credentials :
    (enforceAccessPolicy { apiPolicyEnabled := true, blockGuests := true } ⟨some, some⟩
      {} .api).isSome ∧
    enforceAccessPolicy { apiPolicyEnabled := true, blockGuests := true } ⟨some, some⟩
      { credentials := { authorization := "x" } } .api = none := by
  constructor
  · decide
  · rfl

end StuHelper.Routing
