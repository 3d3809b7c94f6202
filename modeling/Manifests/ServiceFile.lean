import Manifests.Service
import Manifests.Yaml.Decode

/-! Files that describe the services of an application. -/

namespace Manifests.ServiceFile

open Yaml Decoder

def texts : Decoder (List String) := list text

def textDict : Decoder (Dict String) := dict text

def envFile : Decoder EnvFile := fun t n => do
  let f ← fields ["path", "values"] t n
  return {
    path := ← field f "path" text "" t
    values := ← field f "values" textDict ∅ t }

def port : Decoder Port := fun t n => do
  let f ← fields ["host_port", "container_port", "protocol", "host_ip"] t n
  return {
    hostPort := ← field f "host_port" (optional (whole 32)) none t
    containerPort := ← field f "container_port" (whole 32) 0 t
    protocol := ← field f "protocol" (optional text) none t
    hostIp := ← field f "host_ip" (optional text) none t }

def healthCheck : Decoder HealthCheck := fun t n => do
  let f ← fields ["test", "http_path", "http_port", "tcp_port", "timeout", "interval", "retries",
    "start_period", "disable"] t n
  let number (name : String) := field f name (optional (whole 32)) none t
  return {
    test := ← field f "test" texts [] t
    httpPath := ← field f "http_path" (optional text) none t
    httpPort := ← number "http_port"
    tcpPort := ← number "tcp_port"
    timeout := ← number "timeout"
    interval := ← number "interval"
    retries := ← number "retries"
    startPeriod := ← number "start_period"
    disable := ← field f "disable" flag false t }

/-- The checks of a service: that it lives, and that it is ready. -/
def healthChecks : Decoder (HealthCheck × HealthCheck) := fun t n => do
  let f ← fields ["liveness", "readiness"] t n
  return (← field f "liveness" healthCheck {} t, ← field f "readiness" healthCheck {} t)

def configContent : Decoder ConfigContent := fun t n => do
  let f ← fields ["files", "is_dir"] t n
  return {
    files := ← field f "files" textDict ∅ t
    isDir := ← field f "is_dir" flag false t }

def volume : Decoder DeclaredVolume := fun t n => do
  let f ← fields ["volume_name", "host", "container", "mode", "pvc_size", "storage_class",
    "selector_value", "config"] t n
  let optionalText (name : String) := field f name (optional text) none t
  return {
    volumeName := ← optionalText "volume_name"
    host := ← optionalText "host"
    container := ← field f "container" text "" t
    mode := ← optionalText "mode"
    claimSize := ← optionalText "pvc_size"
    storageClass := ← optionalText "storage_class"
    selectorValue := ← optionalText "selector_value"
    config := ← field f "config" (optional configContent) none t }

def placement : Decoder Placement := fun t n => do
  let f ← fields ["constraints", "preferences"] t n
  return {
    constraints := ← field f "constraints" texts [] t
    preferences := ← field f "preferences" texts [] t }

/-- The fields of a service, in their order. -/
def serviceFields : List String :=
  ["name", "container_name", "image", "command", "args", "working_dir", "environment",
    "env_files", "env_from", "ports", "health_checks", "cpu_limit", "mem_limit",
    "cpu_reservation", "mem_reservation", "ephemeral_storage_limit", "ephemeral_storage_request",
    "privileged", "user", "group_add", "fs_group", "read_only", "cap_add", "cap_drop", "pid",
    "volumes", "tmpfs", "restart", "network_mode", "networks", "labels", "annotations",
    "replicas", "in_group", "image_pull_policy", "image_pull_secret", "hostname", "domainname",
    "stop_grace_period", "stdin", "tty", "service_type", "placement"]

def service : Decoder Service := fun t n => do
  let f ← fields serviceFields t n
  let plainText (name : String) := field f name text "" t
  let optionalText (name : String) := field f name (optional text) none t
  let manyTexts (name : String) := field f name texts [] t
  let namedTexts (name : String) := field f name textDict ∅ t
  let amount (name : String) := field f name (whole 64) 0 t
  let isSet (name : String) := field f name flag false t
  let (liveness, readiness) ← field f "health_checks" healthChecks ({}, {}) t
  return {
    name := ← plainText "name"
    containerName := ← optionalText "container_name"
    image := ← plainText "image"
    command := ← manyTexts "command"
    args := ← manyTexts "args"
    workingDir := ← optionalText "working_dir"
    environment := ← namedTexts "environment"
    envFiles := ← field f "env_files" (list envFile) [] t
    envFrom := ← manyTexts "env_from"
    ports := ← field f "ports" (list port) [] t
    liveness
    readiness
    cpuLimit := ← amount "cpu_limit"
    memoryLimit := ← amount "mem_limit"
    cpuReservation := ← amount "cpu_reservation"
    memoryReservation := ← amount "mem_reservation"
    ephemeralLimit := ← optionalText "ephemeral_storage_limit"
    ephemeralRequest := ← optionalText "ephemeral_storage_request"
    privileged := ← isSet "privileged"
    user := ← optionalText "user"
    groupAdd := ← field f "group_add" (list (whole 64)) [] t
    fsGroup := ← field f "fs_group" (optional (whole 64)) none t
    readOnly := ← isSet "read_only"
    capAdd := ← manyTexts "cap_add"
    capDrop := ← manyTexts "cap_drop"
    pid := ← optionalText "pid"
    volumes := ← field f "volumes" (list volume) [] t
    tmpfs := ← manyTexts "tmpfs"
    restart := ← plainText "restart"
    networkMode := ← plainText "network_mode"
    networks := ← manyTexts "networks"
    labels := ← namedTexts "labels"
    annotations := ← namedTexts "annotations"
    replicas := ← field f "replicas" (optional (whole 32)) none t
    inGroup := ← isSet "in_group"
    imagePullPolicy := ← plainText "image_pull_policy"
    imagePullSecret := ← optionalText "image_pull_secret"
    hostname := ← optionalText "hostname"
    domainname := ← optionalText "domainname"
    stopGracePeriod := ← optionalText "stop_grace_period"
    stdin := ← isSet "stdin"
    tty := ← isSet "tty"
    serviceType := ← plainText "service_type"
    placement := ← field f "placement" placement {} t }

/-- The services by name, out of the text of a file. -/
def services? (s : String) : Option (Dict Service) :=
  decode? (fun t n => do field (← fields ["services"] t n) "services" (dict service) ∅ t) s

end Manifests.ServiceFile
