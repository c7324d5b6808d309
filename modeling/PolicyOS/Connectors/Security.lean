import PolicyOS.Connectors.Client
import PolicyOS.Foundation.Logged
import PolicyOS.Foundation.SortedBy
import PolicyOS.Foundation.Text

/-!
# Where connectors connect to

The host of a URL is resolved when the URL is checked and again when a connection is made, and
the two answers need not agree. The connection is to be made to an address of the second answer,
and only when every address of it is global.
-/

namespace PolicyOS.Connectors

open Foundation

/-! ## Addresses -/

/-- An address of the internet protocol. -/
inductive IpAddress
  | v4 (number : BitVec 32)
  | v6 (number : BitVec 128) (scope : Option Text)
  deriving DecidableEq

/-- The version of the protocol. -/
def IpAddress.version : IpAddress → Nat
  | .v4 _ => 4
  | .v6 .. => 6

/-- The number of an address. -/
def IpAddress.toNat : IpAddress → Nat
  | .v4 number => number.toNat
  | .v6 number _ => number.toNat

/-- The address of the older version that one of the newer version carries. -/
def IpAddress.ipv4Mapped : IpAddress → Option IpAddress
  | .v4 _ => none
  | .v6 number _ =>
      if number >>> 32 = 0xFFFF#128 then some (.v4 (number.setWidth 32)) else none

/-- The address that counts: of a mapped one the part of the older version. -/
def IpAddress.effective (ip : IpAddress) : IpAddress := ip.ipv4Mapped.getD ip

example : (IpAddress.v6 0xFFFF7F000001#128 none).effective = .v4 0x7F000001#32 := by decide

/-- How addresses are read and written, and which of them are global. -/
structure AddressFormat where
  ipAddress : Text → Option IpAddress
  str : IpAddress → Text
  isGlobal : IpAddress → Bool
  ipAddress_str : ∀ text ip, ipAddress text = some ip → ipAddress (str ip) = some ip

/-- An address that a connection may be made to. -/
def AddressFormat.Public (format : AddressFormat) (ip : IpAddress) : Prop :=
  format.isGlobal ip.effective = true

instance (format : AddressFormat) (ip : IpAddress) : Decidable (format.Public ip) :=
  inferInstanceAs (Decidable (_ = true))

/-! ## What is raised -/

/-- What is raised instead of a connection: an error of the connectors, that of a connection, or
another exception. -/
inductive Unconnected
  | connector (error : ConnectorError)
  | connectError (message : String)
  | other (name : String)
  deriving DecidableEq

def urlBlocked : Unconnected :=
  .connector { message := "Connector URL is blocked", code := "connector_url_blocked" }

def hostResolutionFailed : Unconnected :=
  .connector { message := "Connector host resolution failed", code := "connector_url_blocked" }

/-! ## URLs -/

/-- A URL in its parts. The port is missing where reading it fails. -/
structure ParsedUrl where
  scheme : Text
  hostname : Option Text
  port : Option (Option Nat)
  username : Option Text := none
  password : Option Text := none
  fragment : Text := []
  query : Text := []

/-- The libraries that read addresses, URLs and names of hosts; nothing where they raise. -/
structure Libraries extends AddressFormat where
  urlparse : Text → Option ParsedUrl
  encodeIdna : Text → Option Text

/-- A part that is given and not empty. -/
def given (part : Option Text) : Bool := part.any (· ≠ [])

/-- A label of a name that is empty, too long, or has a hyphen at an end. -/
def badLabel (label : Text) : Bool :=
  label = [] || decide (63 < label.length) || label.head? = some '-' || label.getLast? = some '-'

/-- A character of a name. -/
def isHostChar (char : Char) : Bool :=
  ('a' ≤ char && char ≤ 'z') || ('0' ≤ char && char ≤ '9') || char = '.' || char = '-'

/-- A name that is not resolved. -/
def BadName (canonical : Text) : Prop :=
  canonical = "localhost".toList ∨ ".localhost".toList <:+ canonical ∨ 253 < canonical.length ∨
    ¬ (canonical ≠ [] ∧ canonical.all isHostChar = true) ∨
    (canonical.splitOn '.').any badLabel = true

instance (canonical : Text) : Decidable (BadName canonical) :=
  inferInstanceAs (Decidable (_ ∨ _))

namespace Libraries

variable (libraries : Libraries)

/-- The one spelling of a host. -/
def canonicalHost (hostname : Text) : Except Unconnected Text := do
  rejectIf ('%' ∈ hostname ∨ hostname.getLast? = some '.') urlBlocked
  match libraries.encodeIdna hostname with
  | none => .error urlBlocked
  | some encoded => do
      let canonical := encoded.map Char.toLower
      rejectIf (libraries.ipAddress canonical = none ∧ BadName canonical) urlBlocked
      pure canonical

/-- A URL in its parts, or nothing where it is not one of a secured host. -/
def parseUrl (url : Text) : Except Unconnected (Option (ParsedUrl × Text × Option Nat)) :=
  match libraries.urlparse url with
  | none => .error urlBlocked
  | some parsed =>
      match parsed.hostname with
      | none => pure none
      | some hostname =>
          if parsed.scheme ≠ "https".toList ∨ hostname = [] then pure none
          else
            match parsed.port with
            | none => .error urlBlocked
            | some port => pure (some (parsed, hostname, port))

/-- The origin of a URL. -/
def origin (url : Text) : Except Unconnected Text := do
  match ← libraries.parseUrl url with
  | none => .error urlBlocked
  | some (_, host, portGiven) => do
      let hostname ← libraries.canonicalHost host
      let port := match portGiven with
        | none => []
        | some number => if number = 443 then [] else ':' :: (toString number).toList
      let bracketed := if ':' ∈ hostname then '[' :: hostname ++ [']'] else hostname
      pure ("https://".toList ++ bracketed ++ port)

end Libraries

/-! ## Resolution -/

/-- An entry of an answer: its address, or what reading it raises. -/
inductive Entry
  | address (text : Text)
  | unreadable
  | other (name : String)

/-- What a resolver does: it answers, fails, or raises something else. -/
inductive Resolution
  | answer (entries : List Entry)
  | failed
  | other (name : String)

/-- What a resolver does, asked for a host and a port. -/
abbrev Resolver := Text → Nat → Resolution

/-- What happens on the way to a connection. -/
inductive Event
  | foundGlobal (ip : IpAddress)
  | connecting (address : Text)
  deriving DecidableEq

/-- A step on the way to a connection. -/
abbrev Steps := Logged Event Unconnected

namespace Libraries

variable (libraries : Libraries)

/-- An address is global. -/
def validateIp (ip : IpAddress) : Steps Unit := do
  Logged.silent (rejectIf (¬ libraries.Public ip) urlBlocked)
  Logged.note (.foundGlobal ip)

/-- The address of an entry, without the zone it is of. -/
def entryAddress : Entry → Except Unconnected IpAddress
  | .address text =>
      match libraries.ipAddress (text.takeWhile (· ≠ '%')) with
      | none => .error hostResolutionFailed
      | some ip => .ok ip
  | .unreadable => .error hostResolutionFailed
  | .other name => .error (.other name)

/-- The addresses of the entries, each found global. -/
def validateEntries : List Entry → Steps (List Text)
  | [] => pure []
  | entry :: rest => do
      let ip ← Logged.silent (libraries.entryAddress entry)
      libraries.validateIp ip
      let resolved ← validateEntries rest
      pure (libraries.str ip :: resolved)

/-- Addresses go by version and number. -/
def addressKey (address : Text) : ℕ ×ₗ ℕ :=
  match libraries.ipAddress address with
  | none => toLex (0, 0)
  | some ip => toLex (ip.version, ip.toNat)

/-- The addresses of a host. -/
def resolveHost (resolver : Resolver) (hostname : Text) (port : Nat) : Steps (List Text) := do
  let canonical ← Logged.silent (libraries.canonicalHost hostname)
  match libraries.ipAddress canonical with
  | some literal => do
      libraries.validateIp literal
      pure [libraries.str literal]
  | none =>
      match resolver canonical port with
      | .failed => Logged.silent (.error hostResolutionFailed)
      | .other name => Logged.silent (.error (.other name))
      | .answer entries => do
          let resolved ← libraries.validateEntries entries
          Logged.silent (rejectIf (resolved = []) hostResolutionFailed)
          pure (sortedBy libraries.addressKey resolved.dedup)

end Libraries

/-! ## The policy -/

/-- The policy of connections. It blocks private networks, or it is not there. -/
structure ConnectorSecurityPolicy where
  allowlist : List Text
  blockPrivateNetworks : Bool
  blocks : blockPrivateNetworks = true

/-- The origins of an allowlist. -/
def Libraries.origins (libraries : Libraries) (allowlist : List Text) :
    Except Unconnected (List Text) :=
  allowlist.mapM libraries.origin

/-- A policy, unless it is to leave private networks open. -/
def Libraries.connectorSecurityPolicy (libraries : Libraries) (allowlist : List Text)
    (blockPrivateNetworks : Bool) : Except Unconnected ConnectorSecurityPolicy :=
  if blocks : blockPrivateNetworks = true then do
    let origins ← libraries.origins allowlist
    pure { allowlist := origins, blockPrivateNetworks := blockPrivateNetworks, blocks := blocks }
  else
    .error (.connector
      { message := "Private network protection cannot be disabled"
        code := "connector_security_invalid" })

namespace ConnectorSecurityPolicy

variable (policy : ConnectorSecurityPolicy) (libraries : Libraries)

/-- The origin of a URL is one of the allowed ones, if any are given. -/
def checkOrigin (url : Text) : Except Unconnected Unit :=
  if policy.allowlist = [] then pure ()
  else do
    let origin ← libraries.origin url
    rejectIf (origin ∉ policy.allowlist) urlBlocked

/-- The port of a URL; that of secured hosts where none is given. -/
def portOf (port : Option Nat) : Nat :=
  match port with
  | none => 443
  | some number => if number = 0 then 443 else number

/-- A URL that may be requested. -/
def validateUrl (resolver : Resolver) (url : Text) : Steps Bool := do
  match ← Logged.silent (libraries.parseUrl url) with
  | none => pure false
  | some (parsed, hostname, port) => do
      Logged.silent (rejectIf (given parsed.username ∨ given parsed.password ∨
        parsed.fragment ≠ [] ∨ parsed.query ≠ []) urlBlocked)
      Logged.silent (policy.checkOrigin libraries url)
      if policy.blockPrivateNetworks then
        let _ ← libraries.resolveHost resolver hostname (portOf port)
        pure true
      else pure true

end ConnectorSecurityPolicy

/-! ## Connections -/

/-- What becomes of an attempt to connect to an address. -/
inductive Attempt
  | opened
  | refused
  | other (name : String)
  deriving DecidableEq

/-- The network below: what becomes of an attempt at each address. -/
abbrev Backend := Text → Attempt

/-- The addresses are tried in turn. -/
def connectEach (backend : Backend) : List Text → Steps Text
  | [] => Logged.silent (.error (.connectError "Connector TCP connection failed"))
  | address :: rest => do
      Logged.note (.connecting address)
      match backend address with
      | .opened => pure address
      | .refused => connectEach backend rest
      | .other name => Logged.silent (.error (.other name))

/-- A connection to a host, and the address it is to. -/
def connectTcp (libraries : Libraries) (resolver : Resolver) (backend : Backend) (host : Text)
    (port : Nat) : Steps Text := do
  let addresses ← libraries.resolveHost resolver host port
  connectEach backend addresses

/-! ## The addresses of an answer -/

namespace Libraries

variable (libraries : Libraries)

/-- The address of an entry that has one. -/
def readable (entry : Entry) : Option IpAddress := (libraries.entryAddress entry).toOption

/-- The addresses of the answer for a host: the host itself, where it is an address. -/
def answered (resolver : Resolver) (hostname : Text) (port : Nat) : List IpAddress :=
  match libraries.canonicalHost hostname with
  | .error _ => []
  | .ok canonical =>
      match libraries.ipAddress canonical with
      | some literal => [literal]
      | none =>
          match resolver canonical port with
          | .answer entries => entries.filterMap libraries.readable
          | _ => []

variable {libraries}

theorem validateIp_eq {ip : IpAddress} :
    libraries.validateIp ip = if libraries.Public ip then ⟨[.foundGlobal ip], .ok ()⟩
      else ⟨[], .error urlBlocked⟩ := by
  by_cases isPublic : libraries.Public ip <;>
    simp [validateIp, rejectIf, isPublic, Bind.bind, Logged.silent, Logged.note]

/-- The address of an entry is written so that it is read back. -/
theorem ipAddress_str_of_readable {entries : List Entry} {ip : IpAddress}
    (isReadable : ip ∈ entries.filterMap libraries.readable) :
    libraries.ipAddress (libraries.str ip) = some ip := by
  obtain ⟨entry, -, hasAddress⟩ := List.mem_filterMap.mp isReadable
  cases entry with
  | unreadable => cases hasAddress
  | other name => cases hasAddress
  | address text =>
      simp only [readable, entryAddress] at hasAddress
      split at hasAddress
      · cases hasAddress
      · next found isRead =>
          cases hasAddress
          exact libraries.ipAddress_str _ _ isRead

/-- Checking entries connects to nothing. -/
theorem connecting_not_mem_validateEntries {address : Text} {entries : List Entry} :
    .connecting address ∉ (libraries.validateEntries entries).events := by
  induction entries with
  | nil => simp [validateEntries]
  | cons entry rest ih =>
      simp only [validateEntries, Logged.mem_events_bind, Logged.events_silent,
        List.not_mem_nil, false_or, Logged.events_pure, and_false, exists_false, or_false,
        validateIp_eq]
      rintro ⟨ip, -, checked | ⟨-, -, later⟩⟩
      · split at checked <;> simp at checked
      · exact ih later

/-- Entries that are all found global: each has an address, and it is public. -/
theorem of_validateEntries {entries : List Entry} {resolved : List Text}
    (accepted : (libraries.validateEntries entries).outcome = .ok resolved) :
    resolved = (entries.filterMap libraries.readable).map libraries.str ∧
      ∀ ip ∈ entries.filterMap libraries.readable,
        libraries.Public ip ∧ .foundGlobal ip ∈ (libraries.validateEntries entries).events := by
  induction entries generalizing resolved with
  | nil =>
      cases accepted
      simp
  | cons entry rest ih =>
      simp only [validateEntries, Logged.outcome_bind_eq_ok, Logged.outcome_silent,
        exists_unit_iff, Logged.outcome_pure, Except.ok.injEq] at accepted
      obtain ⟨ip, hasAddress, found, later, restAccepted, rfl⟩ := accepted
      obtain ⟨rfl, restPublic⟩ := ih restAccepted
      have isReadable : libraries.readable entry = some ip := by rw [readable, hasAddress]; rfl
      have isPublic : libraries.Public ip := by
        rw [validateIp_eq] at found
        by_contra notPublic
        rw [if_neg notPublic] at found
        cases found
      rw [List.filterMap_cons_some isReadable]
      refine ⟨rfl, fun other isOther => ?_⟩
      simp only [validateEntries, Logged.mem_events_bind, Logged.events_silent,
        Logged.outcome_silent, hasAddress, Except.ok.injEq, exists_eq_left', validateIp_eq,
        if_pos isPublic, exists_unit_iff, true_and]
      rcases List.mem_cons.mp isOther with rfl | inRest
      · exact ⟨isPublic, .inr (.inl (List.mem_singleton_self _))⟩
      · exact ⟨(restPublic other inRest).1, .inr (.inr (.inl (restPublic other inRest).2))⟩

variable {resolver : Resolver} {hostname : Text} {port : Nat}

/-- Resolving a host connects to nothing. -/
theorem connecting_not_mem_resolveHost {address : Text} :
    .connecting address ∉ (libraries.resolveHost resolver hostname port).events := by
  intro noted
  simp only [resolveHost, Logged.mem_events_bind, Logged.events_silent, List.not_mem_nil,
    false_or] at noted
  obtain ⟨canonical, -, noted⟩ := noted
  split at noted
  · simp only [Logged.mem_events_bind, Logged.events_pure, List.not_mem_nil, and_false,
      exists_false, or_false, validateIp_eq] at noted
    split at noted <;> simp at noted
  · split at noted
    · exact absurd noted List.not_mem_nil
    · exact absurd noted List.not_mem_nil
    · simp only [Logged.mem_events_bind, Logged.events_silent, Logged.events_pure,
        List.not_mem_nil, and_false, exists_false, or_false] at noted
      exact connecting_not_mem_validateEntries noted

/-- The addresses of a host are those of the answer, and each was found global. -/
theorem of_resolveHost {addresses : List Text}
    (accepted : (libraries.resolveHost resolver hostname port).outcome = .ok addresses) :
    (∀ address ∈ addresses, ∃ ip ∈ libraries.answered resolver hostname port,
      address = libraries.str ip ∧ libraries.ipAddress address = some ip) ∧
    ∀ ip ∈ libraries.answered resolver hostname port, libraries.Public ip ∧
      .foundGlobal ip ∈ (libraries.resolveHost resolver hostname port).events := by
  simp only [resolveHost, Logged.outcome_bind_eq_ok, Logged.outcome_silent] at accepted
  obtain ⟨canonical, isCanonical, accepted⟩ := accepted
  cases isLiteral : libraries.ipAddress canonical with
  | some literal =>
      simp only [isLiteral, Logged.outcome_bind_eq_ok, exists_unit_iff, Logged.outcome_pure,
        Except.ok.injEq, validateIp_eq] at accepted
      obtain ⟨found, rfl⟩ := accepted
      have isPublic : libraries.Public literal := by
        by_contra notPublic
        rw [if_neg notPublic] at found
        cases found
      have isAnswer : libraries.answered resolver hostname port = [literal] := by
        simp only [answered, isCanonical, isLiteral]
      rw [isAnswer]
      refine ⟨fun address isAddress => ?_, fun ip isIp => ?_⟩
      · rw [List.mem_singleton.mp isAddress]
        exact ⟨literal, List.mem_singleton_self _, rfl,
          libraries.ipAddress_str canonical literal isLiteral⟩
      · rw [List.mem_singleton.mp isIp]
        refine ⟨isPublic, ?_⟩
        simp [resolveHost, isCanonical, isLiteral, validateIp_eq, isPublic]
  | none =>
      rw [isLiteral] at accepted
      cases answers : resolver canonical port with
      | failed => simp [answers] at accepted
      | other name => simp [answers] at accepted
      | answer entries =>
          simp only [answers, Logged.outcome_bind_eq_ok, Logged.outcome_silent, exists_unit_iff,
            Logged.outcome_pure, Except.ok.injEq] at accepted
          obtain ⟨resolved, allFound, -, rfl⟩ := accepted
          obtain ⟨rfl, found⟩ := of_validateEntries allFound
          have isAnswer : libraries.answered resolver hostname port =
              entries.filterMap libraries.readable := by
            simp only [answered, isCanonical, isLiteral, answers]
          rw [isAnswer]
          refine ⟨fun address isAddress => ?_, fun ip isIp => ⟨(found ip isIp).1, ?_⟩⟩
          · rw [mem_sortedBy, List.mem_dedup, List.mem_map] at isAddress
            obtain ⟨ip, isIp, rfl⟩ := isAddress
            exact ⟨ip, isIp, rfl, ipAddress_str_of_readable isIp⟩
          · simp only [resolveHost, Logged.mem_events_bind, Logged.outcome_silent, isCanonical,
              Except.ok.injEq, exists_eq_left', isLiteral, answers]
            exact .inr (.inl (found ip isIp).2)

end Libraries

/-! ## Validated targets -/

/-- An attempt is at an address of the list, and comes after every address of the list was found
global; what was opened was attempted; and nothing is attempted if an address of the list is not
public. -/
structure Pinned (libraries : Libraries) (ips : List IpAddress) (run : Steps Text) : Prop where
  foundFirst : ∀ before address after, run.events = before ++ .connecting address :: after →
    (∃ ip ∈ ips, address = libraries.str ip ∧ libraries.ipAddress address = some ip) ∧
    ∀ ip ∈ ips, libraries.Public ip ∧ .foundGlobal ip ∈ before
  attempted : ∀ address, run.outcome = .ok address → .connecting address ∈ run.events
  closed : (∃ ip ∈ ips, ¬ libraries.Public ip) → ∀ address, .connecting address ∉ run.events

variable {libraries : Libraries} {resolver : Resolver} {backend : Backend} {host : Text}
  {port : Nat}

/-- Trying addresses notes attempts at them only. -/
theorem of_mem_connectEach {event : Event} {addresses : List Text}
    (noted : event ∈ (connectEach backend addresses).events) :
    ∃ address ∈ addresses, event = .connecting address := by
  induction addresses with
  | nil => exact absurd noted List.not_mem_nil
  | cons first rest ih =>
      simp only [connectEach, Logged.mem_events_bind, Logged.events_note, List.mem_singleton,
        Logged.outcome_note, true_and, exists_unit_iff] at noted
      rcases noted with isFirst | later
      · exact ⟨first, List.mem_cons_self, isFirst⟩
      · split at later
        · exact absurd later List.not_mem_nil
        · obtain ⟨address, inRest, isAddress⟩ := ih later
          exact ⟨address, List.mem_cons_of_mem _ inRest, isAddress⟩
        · exact absurd later List.not_mem_nil

/-- What was opened was attempted. -/
theorem connecting_mem_connectEach {address : Text} {addresses : List Text}
    (opened : (connectEach backend addresses).outcome = .ok address) :
    .connecting address ∈ (connectEach backend addresses).events := by
  induction addresses with
  | nil => cases opened
  | cons first rest ih =>
      simp only [connectEach, Logged.outcome_bind_eq_ok, Logged.outcome_note, true_and,
        exists_unit_iff] at opened
      simp only [connectEach, Logged.mem_events_bind, Logged.events_note, List.mem_singleton,
        Logged.outcome_note, true_and, exists_unit_iff, Event.connecting.injEq]
      cases becomes : backend first with
      | opened =>
          rw [becomes] at opened
          cases opened
          exact .inl rfl
      | refused =>
          rw [becomes] at opened
          exact .inr (ih opened)
      | other name =>
          rw [becomes] at opened
          cases opened

theorem prefix_of_not_mem {α : Type} {first second before after : List α} {item : α}
    (lacks : item ∉ first) (same : first ++ second = before ++ item :: after) :
    ∃ between, before = first ++ between ∧ second = between ++ item :: after := by
  obtain holds | ⟨between, isFirst, isRest⟩ := List.append_eq_append_iff.mp same
  · exact holds
  · cases between with
    | nil => exact ⟨[], by simpa using isFirst.symm, by simpa using isRest.symm⟩
    | cons next between =>
        obtain ⟨rfl, -⟩ := List.cons.inj isRest
        exact absurd (isFirst ▸ List.mem_append_right before List.mem_cons_self) lacks

/-- A connection is pinned to the addresses of the answer it received. -/
theorem pinned_connectTcp : Pinned libraries (libraries.answered resolver host port)
    (connectTcp libraries resolver backend host port) := by
  cases resolved : (libraries.resolveHost resolver host port).outcome with
  | error error =>
      have isEvents : (connectTcp libraries resolver backend host port).events =
          (libraries.resolveHost resolver host port).events :=
        Logged.events_bind_of_error resolved
      have nothing : ∀ address,
          .connecting address ∉ (connectTcp libraries resolver backend host port).events := by
        intro address attempted
        exact Libraries.connecting_not_mem_resolveHost (isEvents ▸ attempted)
      refine ⟨fun before address after isRun => ?_, fun address opened => ?_, fun _ => nothing⟩
      · exact absurd (isRun ▸ List.mem_append_right before List.mem_cons_self) (nothing address)
      · rw [connectTcp, Logged.outcome_bind_eq_ok, resolved] at opened
        obtain ⟨_, ⟨⟩, -⟩ := opened
  | ok addresses =>
      obtain ⟨ofAnswer, found⟩ := Libraries.of_resolveHost resolved
      have isEvents : (connectTcp libraries resolver backend host port).events =
          (libraries.resolveHost resolver host port).events ++
            (connectEach backend addresses).events :=
        Logged.events_bind_of_ok resolved
      refine ⟨fun before address after isRun => ?_, fun address opened => ?_,
        fun ⟨ip, isIp, notPublic⟩ => absurd (found ip isIp).1 notPublic⟩
      · rw [isEvents] at isRun
        obtain ⟨between, rfl, isAttempts⟩ :=
          prefix_of_not_mem Libraries.connecting_not_mem_resolveHost isRun
        have attempted : Event.connecting address ∈ (connectEach backend addresses).events := by
          rw [isAttempts]
          exact List.mem_append_right _ List.mem_cons_self
        obtain ⟨listed, isListed, ⟨⟩⟩ := of_mem_connectEach attempted
        exact ⟨ofAnswer address isListed, fun ip isIp =>
          ⟨(found ip isIp).1, List.mem_append_left _ (found ip isIp).2⟩⟩
      · rw [connectTcp, Logged.outcome_bind_eq_ok, resolved] at opened
        obtain ⟨_, ⟨⟩, opened⟩ := opened
        rw [isEvents]
        exact List.mem_append_right _ (connecting_mem_connectEach opened)

/-- A URL that may be requested is one of a host whose addresses were all found global. -/
theorem of_validateUrl {policy : ConnectorSecurityPolicy} {url : Text}
    (accepted : (policy.validateUrl libraries resolver url).outcome = .ok true) :
    ∃ parsed hostname port,
      libraries.parseUrl url = .ok (some (parsed, hostname, port)) ∧
      ∀ ip ∈ libraries.answered resolver hostname (ConnectorSecurityPolicy.portOf port),
        libraries.Public ip := by
  simp only [ConnectorSecurityPolicy.validateUrl, Logged.outcome_bind_eq_ok,
    Logged.outcome_silent] at accepted
  obtain ⟨parts, isParsed, accepted⟩ := accepted
  cases parts with
  | none => cases accepted
  | some parts =>
      obtain ⟨parsed, hostname, port⟩ := parts
      simp only [policy.blocks, if_true, Logged.outcome_bind_eq_ok, Logged.outcome_silent]
        at accepted
      obtain ⟨-, -, -, -, addresses, resolved, -⟩ := accepted
      exact ⟨parsed, hostname, port, isParsed,
        fun ip isIp => ((Libraries.of_resolveHost resolved).2 ip isIp).1⟩

/-- Connections go only to validated public addresses: whatever was answered when the URL was
checked, and whatever is answered when a connection is made. -/
theorem connections_pinned {policy : ConnectorSecurityPolicy} {url : Text}
    {atValidation : Resolver}
    (accepted : (policy.validateUrl libraries atValidation url).outcome = .ok true) :
    (∃ parsed hostname port,
      libraries.parseUrl url = .ok (some (parsed, hostname, port)) ∧
      ∀ ip ∈ libraries.answered atValidation hostname (ConnectorSecurityPolicy.portOf port),
        libraries.Public ip) ∧
    ∀ (atConnection : Resolver) (backend : Backend) (host : Text) (port : Nat),
      Pinned libraries (libraries.answered atConnection host port)
        (connectTcp libraries atConnection backend host port) :=
  ⟨of_validateUrl accepted, fun _ _ _ _ => pinned_connectTcp⟩

namespace ResolutionSample

def publicAddress : IpAddress := .v4 0x5DB8D822#32
def privateAddress : IpAddress := .v4 0x0A000001#32

/-- Two addresses, the first of them global. -/
def known : Libraries where
  ipAddress text :=
    if text = "93.184.216.34".toList then some publicAddress
    else if text = "10.0.0.1".toList then some privateAddress
    else none
  str ip := if ip = publicAddress then "93.184.216.34".toList else "10.0.0.1".toList
  isGlobal ip := ip = publicAddress
  ipAddress_str := by
    intro text ip isRead
    split_ifs at isRead
    all_goals cases isRead; rfl
  urlparse url :=
    if url = "https://data.example".toList then
      some { scheme := "https".toList, hostname := some "data.example".toList, port := some none }
    else none
  encodeIdna := some

def policy : ConnectorSecurityPolicy where
  allowlist := []
  blockPrivateNetworks := true
  blocks := rfl

/-- A host that has the public address when its URL is checked. -/
def first : Resolver := fun _ _ => .answer [.address "93.184.216.34".toList]

/-- The host later, when it has a private address too. -/
def later : Resolver := fun _ _ =>
  .answer [.address "93.184.216.34".toList, .address "10.0.0.1".toList]

end ResolutionSample

open ResolutionSample in
theorem connections_pinned_sample :
    (policy.validateUrl known first "https://data.example".toList).outcome =
        .ok true ∧
      Pinned known
        (known.answered later "data.example".toList 443)
        (connectTcp known later (fun _ => .opened) "data.example".toList 443) :=
  have accepted : (policy.validateUrl known first
      "https://data.example".toList).outcome = .ok true := by rfl
  ⟨accepted, (connections_pinned accepted).2 later (fun _ => .opened) "data.example".toList 443⟩

end PolicyOS.Connectors
