/-
The policy tools of `ovca-policy-tools` (`tier1.rs`, `tier2.rs`, `tier3.rs`) that compute no
floating-point number, with their handlers (`http_server.rs`).

A handler answers `none` where the source answers an error. The result that a caller gets is
the object of the handler: none of them has a field `result` of its own.
-/
import OvcaCore.PolicyValues

set_option autoImplicit false

namespace OvcaCore

open OvcaCore.Texts

namespace PolicyTools

section Tools

variable (to_lowercase to_uppercase : Text → Text)

/-! ## sati_check -/

structure SatiCheckResult where
  p1 : Option Text
  p2 : Option Text
  p3 : Text
  proceed : Bool
  stop_reason : Option Text

def sati_check (action context : Text) : SatiCheckResult :=
  let action := trim is_whitespace action
  let context := trim is_whitespace context
  let p1 := if action = [] then none else some action
  let p2 := if context = [] then none else some context
  let p3_tag := if context = [] then "assumed".toList else "inferred".toList
  { p1 := p1
    p2 := p2
    p3 := '[' :: p3_tag ++ "] ผลที่ตามมายังไม่ verify — ต้องตรวจก่อนดำเนินการ".toList
    proceed := p1.isSome && p2.isSome
    stop_reason :=
      if p1.isNone then some "P1 ยังไม่ชัด — ระบุ action ก่อน".toList
      else if p2.isNone then some "P2 ยังตอบไม่ได้ — ต้องถาม owner ว่า authority คืออะไร".toList
      else none }

def handle_sati_check (args : Args) : Option Value := do
  let action ← (field args "action").bind Value.as_str
  let context := trim is_whitespace (text_arg args "context")
  let result := sati_check (trim is_whitespace action) context
  pure (object [
    ("p1", optional_text result.p1),
    ("p2", optional_text result.p2),
    ("p3", .String result.p3),
    ("proceed", .Boolean result.proceed),
    ("stop_reason", optional_text result.stop_reason)])

/-! ## temporal_gate -/

structure TemporalGateResult where
  has_evidence : Bool
  verdict : Text
  cite : Option Text
  safe_response : Option Text

def TEMPORAL_KEYWORDS : List Text :=
  ["ทำไม", "เมื่อไหร่", "root cause", "timing", "background task", "failed", "ไม่แจ้งเตือน",
    "race condition", "timeout", "ก่อน", "หลัง", "พร้อมกัน", "why", "when", "because", "caused by",
    "due to"].map String.toList

/-- The keywords that were found, as Python shows a list of them. -/
def python_list (found : List Text) : Text :=
  '[' :: comma_separated (found.map fun keyword => '\'' :: keyword ++ ['\'']) ++ [']']

def safe_response (found : List Text) : Text :=
  let hint :=
    if found = [] then "ต้องมี log/timestamp/tool result รองรับ".toList
    else "คำที่ trigger: ".toList ++ python_list found
  "ยังยืนยันไม่ได้ค่ะ ต้องดู evidence ก่อน (".toList ++ hint ++ [')']

def non_blank (value : Option Text) : Option Text :=
  (value.map (trim is_whitespace)).filter fun s => s ≠ []

/-- The type of the claim is read and left alone. -/
def temporal_gate (claim : Text) (evidence_source : Option Text) : TemporalGateResult :=
  let evidence := non_blank evidence_source
  let has_evidence := evidence.isSome
  { has_evidence := has_evidence
    verdict := if has_evidence then "allow".toList else "block".toList
    cite := evidence
    safe_response :=
      if has_evidence then none
      else some (safe_response (TEMPORAL_KEYWORDS.filter fun kw => kw <:+: to_lowercase claim)) }

def handle_temporal_gate (args : Args) : Option Value := do
  let claim ← (field args "claim").bind Value.as_str
  let evidence_source := (field args "evidence_source").bind Value.as_str
  let result := temporal_gate to_lowercase (trim is_whitespace claim) evidence_source
  pure (object [
    ("has_evidence", .Boolean result.has_evidence),
    ("verdict", .String result.verdict),
    ("cite", optional_text result.cite),
    ("safe_response", optional_text result.safe_response)])

/-! ## support_disclose -/

inductive SupportLevel where
  | NoSupport
  | LowSupport
  | Supported

structure SupportDiscloseResult where
  level : SupportLevel
  label : Text
  can_assert : Bool
  disclosure_text : Text

def support_disclose (claim : Text) (evidence_items : List Text) : SupportDiscloseResult :=
  let real := (evidence_items.map (trim is_whitespace)).filter fun s => s ≠ []
  let n := real.length
  if n = 0 then
    { level := .NoSupport
      label := "ยังยืนยันไม่ได้".toList
      can_assert := false
      disclosure_text :=
        "ยังยืนยันไม่ได้ค่ะ ไม่มี evidence รองรับ claim: '".toList ++ claim ++ ['\''] }
  else if n ≤ 2 then
    { level := .LowSupport
      label := "support ต่ำ — หลักฐานยังน้อย".toList
      can_assert := false
      disclosure_text := "support ต่ำค่ะ มีแค่ ".toList ++ count_text n
        ++ " evidence item — ยังเป็นข้อสรุปชั่วคราว".toList }
  else
    { level := .Supported
      label := "supported".toList
      can_assert := true
      disclosure_text := "supported — มี ".toList ++ count_text n ++ " evidence items รองรับ".toList }

def support_level_name : SupportLevel → Value
  | .NoSupport => text "no_support"
  | .LowSupport => text "low_support"
  | .Supported => text "supported"

def string_array (value : Option Value) : List Text :=
  ((value.bind Value.as_array).map fun items => items.filterMap Value.as_str).getD []

def handle_support_disclose (args : Args) : Option Value := do
  let claim ← (field args "claim").bind Value.as_str
  let evidence_items := string_array (field args "evidence_items")
  let result := support_disclose (trim is_whitespace claim) evidence_items
  pure (object [
    ("level", support_level_name result.level),
    ("label", .String result.label),
    ("can_assert", .Boolean result.can_assert),
    ("disclosure_text", .String result.disclosure_text)])

/-! ## claim_tag -/

inductive ClaimTagKind where
  | Observed
  | Inferred
  | Assumed
  | Unknown

structure ClaimTagResult where
  tag : ClaimTagKind
  explanation : Text
  display_label : Text

def OBSERVED_KEYWORDS : List Text :=
  ["log", "file", "test", "output", "result", "timestamp"].map String.toList

def INFERRED_KEYWORDS : List Text :=
  ["logic", "เพราะ", "therefore", "infer", "conclude"].map String.toList

def ASSUMED_KEYWORDS : List Text :=
  ["assume", "สมมติ", "probably", "likely", "คิดว่า"].map String.toList

def claim_tag_name : ClaimTagKind → Text
  | .Observed => "observed".toList
  | .Inferred => "inferred".toList
  | .Assumed => "assumed".toList
  | .Unknown => "unknown".toList

/-- Whether one of some keywords is in a text. -/
def mentions (keywords : List Text) (s : Text) : Prop := ∃ k ∈ keywords, k <:+: s

instance (keywords : List Text) (s : Text) : Decidable (mentions keywords s) := by
  unfold mentions
  infer_instance

def claim_tag (basis : Option Text) : ClaimTagResult :=
  let basis_str := (basis.map (trim is_whitespace)).getD []
  let lower := to_lowercase basis_str
  let tagged : ClaimTagKind × Text :=
    if basis_str = [] then (.Unknown, "ไม่มี basis ระบุ — ยังไม่รู้และต้องบอกตรง ๆ".toList)
    else if mentions OBSERVED_KEYWORDS lower then
      (.Observed, "มี direct evidence: ".toList ++ basis_str)
    else if mentions INFERRED_KEYWORDS lower then
      (.Inferred, "สรุปจาก logic แต่ยังไม่ verify ตรง: ".toList ++ basis_str)
    else if mentions ASSUMED_KEYWORDS lower then
      (.Assumed, "สมมติฐานที่ยังไม่ยืนยัน: ".toList ++ basis_str)
    else (.Inferred, "basis ไม่ชัดพอที่จะ verify ตรง: ".toList ++ basis_str)
  { tag := tagged.1
    explanation := tagged.2
    display_label := '[' :: claim_tag_name tagged.1 ++ [']'] }

def handle_claim_tag (args : Args) : Option Value := do
  let _ ← (field args "claim").bind Value.as_str
  let basis := (field args "basis").bind Value.as_str
  let result := claim_tag to_lowercase basis
  pure (object [
    ("tag", .String (claim_tag_name result.tag)),
    ("explanation", .String result.explanation),
    ("display_label", .String result.display_label)])

/-! ## drift_check -/

inductive Severity where
  | Warn
  | Stop
  deriving DecidableEq

structure DriftBug where
  bug : Text
  signal : Text
  description : Text
  severity : Severity

structure DriftCheckResult where
  bugs_detected : List DriftBug
  clean : Bool
  stop : Bool

structure DriftPattern where
  name : Text
  signals : List Text
  description : Text
  severity : Severity

def DRIFT_PATTERNS : List DriftPattern :=
  [{ name := "sycophancy".toList
     signals := ["ขอโทษ", "sorry", "apologize", "โทษ", "ผิดพลาดที่"].map String.toList
     description := "เริ่มด้วย apology โดยไม่มี analysis".toList
     severity := .Stop },
   { name := "self_created_plan".toList
     signals := ["จะทำเลย", "implement ทันที", "ลงมือ", "เริ่มได้เลย", "จัดการให้เลย"].map String.toList
     description := "propose action โดยไม่มี authority_ref".toList
     severity := .Stop },
   { name := "recency_bias".toList
     signals := ["เมื่อกี้บอกว่า", "จากที่พึ่งพูด", "ข้อความล่าสุด", "เพิ่งบอก"].map String.toList
     description := "override decision เดิมเพราะข้อความล่าสุด".toList
     severity := .Warn },
   { name := "performance_bias".toList
     signals := ["แก้โค้ด", "edit file", "แก้ไฟล์", "fix the code", "change line"].map String.toList
     description := "เสนอ code change ก่อนเข้าใจ root cause".toList
     severity := .Warn },
   { name := "skip_foundation".toList
     signals := ["ข้ามไป", "skip", "ทำ step ถัดไป", "next task"].map String.toList
     description := "dispatch งาน N+1 ก่อน N เสร็จ".toList
     severity := .Warn },
   { name := "lazy_reading".toList
     signals := ["น่าจะเป็น", "คงจะ", "probably the same", "ตามเดิม"].map String.toList
     description := "หลุด critical constraint ใน task/spec".toList
     severity := .Warn }]

/-- The first of some signals that is in a text. -/
def first_signal (signals : List Text) (combined : Text) : Option Text :=
  signals.find? fun s => s <:+: combined

def drift_check (reasoning_snippet : Text) (proposed_action : Option Text) : DriftCheckResult :=
  let combined := to_lowercase reasoning_snippet ++ ' ' :: to_lowercase (proposed_action.getD [])
  let bugs := DRIFT_PATTERNS.filterMap fun p =>
    (first_signal p.signals combined).map fun sig =>
      { bug := p.name
        signal := "พบ '".toList ++ sig ++ "' ใน reasoning".toList
        description := p.description
        severity := p.severity : DriftBug }
  { bugs_detected := bugs
    clean := bugs.isEmpty
    stop := bugs.any fun b => b.severity = .Stop }

def severity_name : Severity → Value
  | .Warn => text "warn"
  | .Stop => text "stop"

def handle_drift_check (args : Args) : Option Value := do
  let reasoning_snippet ← (field args "reasoning_snippet").bind Value.as_str
  let proposed_action := (field args "proposed_action").bind Value.as_str
  let result := drift_check to_lowercase (trim is_whitespace reasoning_snippet) proposed_action
  pure (object [
    ("bugs_detected", .Array (result.bugs_detected.map fun bug => object [
      ("bug", .String bug.bug),
      ("signal", .String bug.signal),
      ("description", .String bug.description),
      ("severity", severity_name bug.severity)])),
    ("clean", .Boolean result.clean),
    ("stop", .Boolean result.stop)])

/-! ## Deserialization -/

def vec_string (value : Value) : Option (List Text) := value.as_array.bind fun items =>
  items.mapM Value.as_str

def as_bool : Value → Option Bool
  | .Boolean value => some value
  | _ => none

/-- A field with `#[serde(default)]`. -/
def default_field {α : Type} (default : α) (read : Value → Option α) : Option Value → Option α
  | none => some default
  | some value => read value

/-- An `Option` field. -/
def option_field {α : Type} (read : Value → Option α) : Option Value → Option (Option α)
  | none => some none
  | some .Null => some none
  | some value => (read value).map some

/-- The fields of a struct: by name from an object, or in order from an array. -/
def struct_fields (names : List String) : Value → Option (String → Option Value)
  | .Object fields => some (field fields)
  | .Array items =>
    if items.length ≤ names.length then some fun name => (names.zip items).lookup name else none
  | _ => none

/-! ## scamper_fill -/

structure ScamperFillInput where
  base_object : Text
  improvement_target : Text
  eliminate : List Text
  reverse : List Text
  blind_spot : Text
  smallest_next_experiment : Text
  substitute : List Text
  combine : List Text
  adapt : List Text
  modify : List Text
  put_to_other_use : List Text
  guardrail : Text

def ScamperFillInput.from_value (args : Args) : Option ScamperFillInput := do
  let base_object ← (field args "base_object").bind Value.as_str
  let improvement_target ← (field args "improvement_target").bind Value.as_str
  let eliminate ← (field args "eliminate").bind vec_string
  let reverse ← (field args "reverse").bind vec_string
  let blind_spot ← (field args "blind_spot").bind Value.as_str
  let smallest_next_experiment ← (field args "smallest_next_experiment").bind Value.as_str
  let substitute ← default_field [] vec_string (field args "substitute")
  let combine ← default_field [] vec_string (field args "combine")
  let adapt ← default_field [] vec_string (field args "adapt")
  let modify ← default_field [] vec_string (field args "modify")
  let put_to_other_use ← default_field [] vec_string (field args "put_to_other_use")
  let guardrail ← default_field [] Value.as_str (field args "guardrail")
  pure
    { base_object, improvement_target, eliminate, reverse, blind_spot, smallest_next_experiment,
      substitute, combine, adapt, modify, put_to_other_use, guardrail }

/-- What is missing of a SCAMPER pass. -/
def scamper_missing (input : ScamperFillInput) : List Text :=
  (if input.eliminate = [] then ["eliminate".toList] else [])
    ++ (if input.reverse = [] then ["reverse".toList] else [])
    ++ (if trim is_whitespace input.blind_spot = [] then ["blind_spot".toList] else [])
    ++ (if trim is_whitespace input.smallest_next_experiment = []
      then ["smallest_next_experiment".toList] else [])

def handle_scamper_fill (args : Args) : Option Value := do
  let input ← ScamperFillInput.from_value args
  let missing := scamper_missing input
  pure (object [
    ("base_object", .String input.base_object),
    ("improvement_target", .String input.improvement_target),
    ("ideas", object [
      ("substitute", strings input.substitute),
      ("combine", strings input.combine),
      ("adapt", strings input.adapt),
      ("modify", strings input.modify),
      ("put_to_other_use", strings input.put_to_other_use),
      ("eliminate", strings input.eliminate),
      ("reverse", strings input.reverse)]),
    ("blind_spot", .String input.blind_spot),
    ("guardrail", .String input.guardrail),
    ("smallest_next_experiment", .String input.smallest_next_experiment),
    ("missing", strings missing),
    ("ready", .Boolean missing.isEmpty)])

/-! ## business_gate -/

inductive BottleneckArea where
  | Lead
  | Sales
  | Delivery
  | Profit
  | Unknown
  deriving DecidableEq

namespace BottleneckArea

def from_str (s : Text) : BottleneckArea :=
  let s := to_lowercase s
  if s = "lead".toList then .Lead
  else if s = "sales".toList then .Sales
  else if s = "delivery".toList then .Delivery
  else if s = "profit".toList then .Profit
  else .Unknown

/-- `{:?}`. -/
def debug : BottleneckArea → Text
  | .Lead => "Lead".toList
  | .Sales => "Sales".toList
  | .Delivery => "Delivery".toList
  | .Profit => "Profit".toList
  | .Unknown => "Unknown".toList

end BottleneckArea

structure KpiAnchor where
  do_x : Text
  measure_y : Text
  target_z : Text

structure BusinessGateResult where
  bottleneck_diagnosed : Bool
  bottleneck_area : BottleneckArea
  bottleneck_evidence : Option Text
  kpi_anchor : Option KpiAnchor
  can_proceed : Bool
  block_reason : Option Text

def business_gate (recommendation domain : Text) (bottleneck_evidence : Option Text) :
    BusinessGateResult :=
  let area := BottleneckArea.from_str to_lowercase domain
  let evidence := non_blank bottleneck_evidence
  let diagnosed := evidence.isSome && area ≠ .Unknown
  { bottleneck_diagnosed := diagnosed
    bottleneck_area := area
    bottleneck_evidence := evidence
    kpi_anchor :=
      if diagnosed then
        some { do_x := recommendation
               measure_y := to_lowercase ("metric ที่วัดผล ".toList ++ area.debug)
               target_z := "ระบุเป้าหมายเป็นตัวเลขชัดเจน".toList }
      else none
    can_proceed := diagnosed
    block_reason :=
      if diagnosed then none
      else if area = .Unknown then
        some "ยังไม่ diagnose ว่าติดที่ lead/sales/delivery/profit — ต้องหา evidence ก่อน".toList
      else some ("domain='".toList ++ domain
        ++ "' แต่ยังไม่มี bottleneck_evidence — ต้องระบุก่อน".toList) }

def bottleneck_area_name : BottleneckArea → Value
  | .Lead => text "lead"
  | .Sales => text "sales"
  | .Delivery => text "delivery"
  | .Profit => text "profit"
  | .Unknown => text "unknown"

def kpi_anchor_value : Option KpiAnchor → Value
  | some anchor => object [
    ("do_x", .String anchor.do_x),
    ("measure_y", .String anchor.measure_y),
    ("target_z", .String anchor.target_z)]
  | none => .Null

def handle_business_gate (args : Args) : Option Value :=
  let recommendation := trim is_whitespace (text_arg args "recommendation")
  if recommendation = [] then none
  else
    let domain := ((field args "domain").bind Value.as_str).getD "other".toList
    let bottleneck_evidence := (field args "bottleneck_evidence").bind Value.as_str
    let result := business_gate to_lowercase recommendation domain bottleneck_evidence
    some (object [
      ("bottleneck_diagnosed", .Boolean result.bottleneck_diagnosed),
      ("bottleneck_area", bottleneck_area_name result.bottleneck_area),
      ("bottleneck_evidence", optional_text result.bottleneck_evidence),
      ("kpi_anchor", kpi_anchor_value result.kpi_anchor),
      ("can_proceed", .Boolean result.can_proceed),
      ("block_reason", optional_text result.block_reason)])

/-! ## pre_change_notice -/

inductive ActionType where
  | Create
  | Edit
  | Delete
  | Move
  | Overwrite

namespace ActionType

def from_str (s : Text) : Option ActionType :=
  let s := to_lowercase s
  if s = "create".toList then some .Create
  else if s = "edit".toList then some .Edit
  else if s = "delete".toList then some .Delete
  else if s = "move".toList then some .Move
  else if s = "overwrite".toList then some .Overwrite
  else none

def is_destructive : ActionType → Bool
  | .Delete | .Move | .Overwrite => true
  | .Create | .Edit => false

def as_str : ActionType → Text
  | .Create => "CREATE".toList
  | .Edit => "EDIT".toList
  | .Delete => "DELETE".toList
  | .Move => "MOVE".toList
  | .Overwrite => "OVERWRITE".toList

end ActionType

structure PreChangeNoticeResult where
  why : Text
  outcome : Text
  downside : Text
  requires_approval : Bool
  display_text : Text
  missing : List Text
  valid : Bool

/-- The fields of a notice that are blank. -/
def notice_missing (reason outcome risk : Text) : List Text :=
  (if reason = [] then ["reason (why / authority)".toList] else [])
    ++ (if outcome = [] then ["expected_outcome".toList] else [])
    ++ (if risk = [] then ["risk_or_rollback".toList] else [])

def notice_display (action_label file_path reason outcome risk : Text) : Text :=
  "⚠️ [".toList ++ action_label ++ "] ".toList ++ file_path ++ "\n  ทำไม: ".toList ++ reason
    ++ "\n  ผลที่คาด: ".toList ++ outcome ++ "\n  Risk/Rollback: ".toList ++ risk

def approval_display (display : Text) : Text :=
  "⛔ ".toList ++ display ++ "\n  → ต้องขอ approval ก่อน".toList

def pre_change_notice (action_type file_path reason expected_outcome risk_or_rollback : Text) :
    PreChangeNoticeResult :=
  let action := ActionType.from_str to_lowercase action_type
  let reason := trim is_whitespace reason
  let outcome := trim is_whitespace expected_outcome
  let risk := trim is_whitespace risk_or_rollback
  let missing := notice_missing reason outcome risk
  let valid := missing.isEmpty
  let is_destructive := (action.map ActionType.is_destructive).getD false
  let action_label := (action.map ActionType.as_str).getD (to_uppercase action_type)
  let display := notice_display action_label file_path reason outcome risk
  { why := reason
    outcome := outcome
    downside := risk
    requires_approval := is_destructive || valid
    display_text := if is_destructive && valid then approval_display display else display
    missing := missing
    valid := valid }

def handle_pre_change_notice (args : Args) : Option Value := do
  let action_type ← (field args "action_type").bind Value.as_str
  let file_path ← (field args "file_path").bind Value.as_str
  let reason ← (field args "reason").bind Value.as_str
  let expected_outcome ← (field args "expected_outcome").bind Value.as_str
  let risk_or_rollback ← (field args "risk_or_rollback").bind Value.as_str
  let action_type := trim is_whitespace action_type
  let file_path := trim is_whitespace file_path
  let result := pre_change_notice to_lowercase to_uppercase action_type file_path reason
    expected_outcome risk_or_rollback
  pure (object [
    ("notice", object [
      ("what", .String (to_lowercase action_type ++ ' ' :: file_path)),
      ("why", .String result.why),
      ("outcome", .String result.outcome),
      ("downside", .String result.downside)]),
    ("requires_approval", .Boolean result.requires_approval),
    ("display_text", .String result.display_text),
    ("missing", strings result.missing),
    ("valid", .Boolean result.valid)])

/-! ## plan_before_dispatch -/

structure AutonomousBatchScope where
  include_paths : List Text
  exclude_paths : List Text

def AutonomousBatchScope.from_value (value : Value) : Option AutonomousBatchScope := do
  let get ← struct_fields ["include", "exclude"] value
  let include_paths ← default_field [] vec_string (get "include")
  let exclude_paths ← default_field [] vec_string (get "exclude")
  pure { include_paths, exclude_paths }

structure AutonomousBatch where
  enabled : Bool
  authority : Option Text
  scope : Option AutonomousBatchScope
  stop_conditions : List Text
  commit_policy : Option Value

def AutonomousBatch.from_value (value : Value) : Option AutonomousBatch := do
  let get ← struct_fields ["enabled", "authority", "scope", "stop_conditions", "commit_policy"] value
  let enabled ← default_field false as_bool (get "enabled")
  let authority ← option_field Value.as_str (get "authority")
  let scope ← option_field AutonomousBatchScope.from_value (get "scope")
  let stop_conditions ← default_field [] vec_string (get "stop_conditions")
  let commit_policy ← option_field some (get "commit_policy")
  pure { enabled, authority, scope, stop_conditions, commit_policy }

structure Plan where
  objective : Option Text
  steps : List Text
  files_affected : List Text
  risks : List Text
  acceptance_criteria : List Text
  autonomous_batch : Option AutonomousBatch

def Plan.from_value (value : Value) : Option Plan := do
  let get ← struct_fields ["objective", "steps", "files_affected", "risks", "acceptance_criteria",
    "autonomous_batch"] value
  let objective ← option_field Value.as_str (get "objective")
  let steps ← default_field [] vec_string (get "steps")
  let files_affected ← default_field [] vec_string (get "files_affected")
  let risks ← default_field [] vec_string (get "risks")
  let acceptance_criteria ← default_field [] vec_string (get "acceptance_criteria")
  let autonomous_batch ← option_field AutonomousBatch.from_value (get "autonomous_batch")
  pure { objective, steps, files_affected, risks, acceptance_criteria, autonomous_batch }

/-- A name is missing when its text is absent or blank. -/
def missing_text (name : String) (value : Option Text) : List Text :=
  if trim is_whitespace (value.getD []) = [] then [name.toList] else []

def missing_list (name : String) (values : List Text) : List Text :=
  if values = [] then [name.toList] else []

def scope_missing : Option AutonomousBatchScope → List Text
  | none => ["autonomous_batch.scope.include".toList, "autonomous_batch.scope.exclude".toList]
  | some scope =>
    missing_list "autonomous_batch.scope.include" scope.include_paths
      ++ missing_list "autonomous_batch.scope.exclude" scope.exclude_paths

def batch_missing (batch : AutonomousBatch) : List Text :=
  if batch.enabled then
    missing_text "autonomous_batch.authority" batch.authority
      ++ scope_missing batch.scope
      ++ missing_list "autonomous_batch.stop_conditions" batch.stop_conditions
      ++ (if batch.commit_policy.isNone then ["autonomous_batch.commit_policy".toList] else [])
  else []

def optional_batch_missing : Option AutonomousBatch → List Text
  | some batch => batch_missing batch
  | none => []

def plan_missing (plan : Plan) : List Text :=
  missing_text "objective" plan.objective
    ++ missing_list "steps" plan.steps
    ++ missing_list "files_affected" plan.files_affected
    ++ missing_list "risks" plan.risks
    ++ missing_list "acceptance_criteria" plan.acceptance_criteria
    ++ optional_batch_missing plan.autonomous_batch

/-- The answer for some missing fields. -/
def plan_result (missing : List Text) : Value :=
  object [
    ("valid", .Boolean missing.isEmpty),
    ("missing_fields", strings missing),
    ("can_dispatch", .Boolean missing.isEmpty),
    ("block_reason", optional_text (if missing.isEmpty then none
      else some ("แผนยังไม่ครบ — ต้องระบุ: ".toList ++ comma_separated missing ++ " ก่อน".toList)))]

def handle_plan_before_dispatch (args : Args) : Option Value := do
  let plan ← Plan.from_value ((field args "plan").getD .Null)
  pure (plan_result (plan_missing plan))

/-! ## dispatch_blocker_check -/

def PLACEHOLDER_TOKENS : List Text :=
  ["TODO", "PLACEHOLDER", "TBD", "FILL", "???"].map String.toList

def is_placeholder (s : Text) : Prop := mentions PLACEHOLDER_TOKENS (to_uppercase s)

instance (s : Text) : Decidable (is_placeholder to_uppercase s) := by
  unfold is_placeholder
  infer_instance

/-- The fields that have to be there, in the order in which they are checked. -/
def required_fields : List String :=
  ["task_ref", "checklist_ref", "section_ref", "objective", "acceptance_ref", "verification_ref",
    "dispatch_mode"]

structure DispatchBlockerInput where
  required : List (String × Option Text)
  writable_scope : List Text
  stop_if_missing : Bool

def DispatchBlockerInput.from_value (args : Args) : Option DispatchBlockerInput := do
  let required ← required_fields.mapM fun name =>
    (option_field Value.as_str (field args name)).map fun value => (name, value)
  let writable_scope ← default_field [] vec_string (field args "writable_scope")
  let stop_if_missing ← default_field true as_bool (field args "stop_if_missing")
  pure { required, writable_scope, stop_if_missing }

/-- `fail_reason` of a check that is not ready. -/
def fail_reason (stop_if_missing : Bool) (missing placeholder : List Text) : Text :=
  [' '].intercalate ((if stop_if_missing then ["stop_if_missing=true —".toList] else [])
    ++ (if missing = [] then []
      else ["missing ".toList ++ count_text missing.length ++ " fields: ".toList
        ++ comma_separated missing])
    ++ (if placeholder = [] then []
      else ["placeholder in: ".toList ++ comma_separated placeholder]))

/-- The answer for some missing fields and some with a placeholder. -/
def blocker_result (stop_if_missing : Bool) (missing placeholder : List Text) : Value :=
  let ready := missing.isEmpty && placeholder.isEmpty
  object [
    ("ready", .Boolean ready),
    ("missing_fields", strings missing),
    ("placeholder_fields", strings placeholder),
    ("verdict", if ready then text "PASS" else text "FAIL"),
    ("fail_reason", optional_text (if ready then none
      else some (fail_reason stop_if_missing missing placeholder)))]

def blank_field (value : Option Text) : Bool := trim is_whitespace (value.getD []) = []

def dispatch_blocker_check (input : DispatchBlockerInput) : Value :=
  let missing := (input.required.filter fun entry => blank_field entry.2).map
      (fun entry => entry.1.toList)
    ++ (if input.writable_scope = [] then ["writable_scope".toList] else [])
  let placeholder := (input.required.filter fun entry =>
      !blank_field entry.2 && decide (is_placeholder to_uppercase (entry.2.getD []))).map
    (fun entry => entry.1.toList)
  blocker_result input.stop_if_missing missing placeholder

def handle_dispatch_blocker_check (args : Args) : Option Value :=
  (DispatchBlockerInput.from_value args).map (dispatch_blocker_check to_uppercase)

/-! ## Calls -/

inductive Tool where
  | sati_check
  | temporal_gate
  | support_disclose
  | claim_tag
  | drift_check
  | scamper_fill
  | business_gate
  | pre_change_notice
  | plan_before_dispatch
  | dispatch_blocker_check
  deriving DecidableEq

/-- The result of a call, unless it is an error. -/
def call (tool : Tool) (args : Args) : Option Value :=
  match tool with
  | .sati_check => handle_sati_check args
  | .temporal_gate => handle_temporal_gate to_lowercase args
  | .support_disclose => handle_support_disclose args
  | .claim_tag => handle_claim_tag to_lowercase args
  | .drift_check => handle_drift_check to_lowercase args
  | .scamper_fill => handle_scamper_fill args
  | .business_gate => handle_business_gate to_lowercase args
  | .pre_change_notice => handle_pre_change_notice to_lowercase to_uppercase args
  | .plan_before_dispatch => handle_plan_before_dispatch args
  | .dispatch_blocker_check => handle_dispatch_blocker_check to_uppercase args

end Tools

end PolicyTools

end OvcaCore
