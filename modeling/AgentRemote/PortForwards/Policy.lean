import AgentRemote.PortForwards.Records

/-!
# Policies of port forwarding

The policy of a node, from its own settings where these are valid and those of the server
where they are not, and what a node must be able to do.
-/

namespace AgentRemote.PortForwards

structure PortForwardSettings where
  portForwardingEnabled : Bool
  minPort : ℤ
  maxPort : ℤ
  maxPerUser : ℤ
  maxPerDevice : ℤ
  maxPerSession : ℤ
  maxStreams : ℤ
  defaultTtlSeconds : ℤ
  maxTtlSeconds : ℤ
  connectionTokenTtlSeconds : ℕ
  leaseSeconds : ℤ
  controlPlaneGraceSeconds : ℤ
  bytesPerSecond : ℤ

structure PortForwardPolicy where
  enabled : Bool
  minPort : ℤ
  maxPort : ℤ
  deniedPorts : List ℤ
  maxPerUser : ℤ
  maxPerDevice : ℤ
  maxPerSession : ℤ
  maxStreams : ℤ
  defaultTtlSeconds : ℤ
  maxTtlSeconds : ℤ
  leaseSeconds : ℤ
  controlPlaneGraceSeconds : ℤ
  bytesPerSecond : ℤ

/-- `timedelta(seconds=n)` for an integer that may be read from a policy. -/
def timedelta (n : ℤ) : ℤ := 1000000 * n

/-- `_int_policy`. -/
def intPolicy (values : JsonObject) (key : String) (default minimum : ℤ)
    (maximum : Option ℤ) : ℤ :=
  match values.int? key.toList with
  | some value => if minimum ≤ value ∧ ∀ m ∈ maximum, value ≤ m then value else default
  | none => default

/-- `_bool_policy`. -/
def boolPolicy (values : JsonObject) (key : String) (default : Bool) : Bool :=
  (values.bool? key.toList).getD default

/-- The value of a policy is its default or within its bounds. -/
lemma intPolicy_bounds (values : JsonObject) (key : String) (default minimum : ℤ)
    (maximum : Option ℤ) :
    intPolicy values key default minimum maximum = default ∨
      minimum ≤ intPolicy values key default minimum maximum ∧
        ∀ m ∈ maximum, intPolicy values key default minimum maximum ≤ m := by
  unfold intPolicy
  split
  · split_ifs with h
    · exact .inr h
    · exact .inl rfl
  · exact .inl rfl

def Node.forwardingCapability (node : Node) : Option JsonObject :=
  (node.runtimeCapabilities.get "session_port_forwarding".toList).bind JsonValue.object?

/-- `_policy`. -/
def PortForwardSettings.policy (settings : PortForwardSettings) (node : Node) :
    PortForwardPolicy :=
  let overrides := ((node.runtimePolicy.get "port_forwarding".toList).bind
    JsonValue.object?).getD []
  let capabilityMaxStreams :=
    match node.forwardingCapability.bind fun c => JsonObject.int? c "max_streams".toList with
    | some value => if 1 ≤ value ∧ value ≤ 1024 then value else settings.maxStreams
    | none => settings.maxStreams
  let maxTtlSeconds := intPolicy overrides "max_ttl_seconds" settings.maxTtlSeconds 60 none
  { enabled := boolPolicy overrides "enabled" settings.portForwardingEnabled
    minPort := intPolicy overrides "min_port" settings.minPort 1 (some 65535)
    maxPort := intPolicy overrides "max_port" settings.maxPort 1 (some 65535)
    deniedPorts := (((JsonObject.get overrides "denied_ports".toList).bind
      JsonValue.array?).getD []).filterMap JsonValue.int? |>.filter fun v => 1 ≤ v ∧ v ≤ 65535
    maxPerUser := intPolicy overrides "max_per_user" settings.maxPerUser 1 none
    maxPerDevice := intPolicy overrides "max_per_device" settings.maxPerDevice 1 none
    maxPerSession := intPolicy overrides "max_per_session" settings.maxPerSession 1 none
    maxStreams := intPolicy overrides "max_streams"
      (min settings.maxStreams capabilityMaxStreams) 1 (some capabilityMaxStreams)
    defaultTtlSeconds :=
      min (intPolicy overrides "default_ttl_seconds" settings.defaultTtlSeconds 60 none)
        maxTtlSeconds
    maxTtlSeconds := maxTtlSeconds
    leaseSeconds := intPolicy overrides "lease_seconds" settings.leaseSeconds 1 none
    controlPlaneGraceSeconds := intPolicy overrides "control_plane_grace_seconds"
      settings.controlPlaneGraceSeconds 0 none
    bytesPerSecond := intPolicy overrides "bytes_per_second" settings.bytesPerSecond 0 none }

/-- The default time to live is within the maximum. -/
lemma PortForwardSettings.policy_ttl (settings : PortForwardSettings) (node : Node) :
    (settings.policy node).defaultTtlSeconds ≤ (settings.policy node).maxTtlSeconds :=
  min_le_right _ _

def forwardUnsupported (message : String) : ForwardFailure :=
  .plain "PORT_FORWARD_UNSUPPORTED" message 409

/-- `_require_capability`. -/
def requireCapability (node : Node) (toolSession : ToolSession) : Except ForwardFailure Unit :=
  match node.forwardingCapability with
  | none => .error (forwardUnsupported "Node does not support session port forwarding.")
  | some capability =>
    if JsonObject.bool? capability "supported".toList ≠ some true then
      .error (forwardUnsupported "Node does not support session port forwarding.")
    else if holdsText (JsonObject.get capability "backends".toList)
        toolSession.runtimeBackend = false then
      .error (forwardUnsupported "Session runtime does not support port forwarding.")
    else match JsonObject.int? capability "max_streams".toList with
      | some maxStreams =>
        if holdsOne (JsonObject.get capability "protocol_versions".toList) = true ∧
            1 ≤ maxStreams ∧ maxStreams ≤ 1024 then .ok ()
        else .error (.plain "PROTOCOL_UNSUPPORTED"
          "Node port forwarding protocol is not compatible." 409)
      | none => .error (.plain "PROTOCOL_UNSUPPORTED"
          "Node port forwarding protocol is not compatible." 409)

/-- `_validate_remote_port`. -/
def validateRemotePort (policy : PortForwardPolicy) (remotePort : ℤ) :
    Except ForwardFailure Unit :=
  if policy.enabled = false then
    .error (.plain "PORT_FORWARD_DISABLED" "Session port forwarding is disabled." 403)
  else if policy.minPort > policy.maxPort ∨
      ¬(policy.minPort ≤ remotePort ∧ remotePort ≤ policy.maxPort) ∨
      remotePort ∈ policy.deniedPorts then
    .error (.plain "PORT_NOT_ALLOWED" "Remote port is not allowed by policy." 403)
  else .ok ()

end AgentRemote.PortForwards
