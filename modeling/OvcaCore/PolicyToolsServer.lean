/-
The same policy tools in Python (`scripts/mcp/policy_tools_server.py`).

The functions take any JSON value; `none` stands for an exception. An argument that a function
does not know is left alone here, where a direct call raises. `repr` shows a value that is no
string, and `order` is the order in which the set of trigger keywords is gone through.
-/
import OvcaCore.PolicyTools

set_option autoImplicit false

namespace OvcaCore

open OvcaCore.Texts

namespace PolicyToolsServer

open OvcaCore.PolicyTools

section Tools

variable (lower upper : Text → Text) (repr : Value → Text)

/-- `value.strip()`: only a string has it. -/
def strip (value : Value) : Option Text := value.as_str.map (trim is_whitespace)

/-- `value.strip()` under `value and value.strip()`. -/
def stripped (value : Value) : Option (Option Text) :=
  if value.truthy then (strip value).map fun s => if s = [] then none else some s
  else some none

/-- `args.get(key, default)`. -/
def get (args : Args) (key : String) (default : Value) : Value := (field args key).getD default

/-! ## Tier 1 -/

def sati_check (action context : Value) : Option Value := do
  let action ← strip action
  let p1 := if action = [] then none else some action
  let p2 ← stripped context
  let p3_tag := if context.truthy then "inferred".toList else "assumed".toList
  let stop_reason :=
    if p1.isNone then some "P1 ยังไม่ชัด — ระบุ action ก่อน".toList
    else if p2.isNone then some "P2 ยังตอบไม่ได้ — ต้องถาม owner ว่า authority คืออะไร".toList
    else none
  pure (object [
    ("p1", optional_text p1),
    ("p2", optional_text p2),
    ("p3", .String ('[' :: p3_tag ++ "] ผลที่ตามมายังไม่ verify — ต้องตรวจก่อนดำเนินการ".toList)),
    ("proceed", .Boolean (p1.isSome && p2.isSome)),
    ("stop_reason", optional_text stop_reason)])

def temporal_gate (order : List Text) (claim claim_type evidence_source : Value) :
    Option Value := do
  let claim ← strip claim
  let _ ← strip claim_type
  let cite ← stripped evidence_source
  let has_evidence := cite.isSome
  let keywords_found := order.filter fun k => lower k <:+: lower claim
  pure (object [
    ("has_evidence", .Boolean has_evidence),
    ("verdict", if has_evidence then text "allow" else text "block"),
    ("cite", optional_text cite),
    ("safe_response", optional_text (if has_evidence then none
      else some (safe_response keywords_found)))])

/-- What a `for` goes through: the characters of a string, the keys of an object. -/
def iterate : Value → Option (List Value)
  | .String value => some (value.map fun c => .String [c])
  | .Array items => some items
  | .Object fields => some (fields.map fun field => .String field.1)
  | _ => none

/-- `value or []`, gone through. -/
def iterate_or_empty (value : Value) : Option (List Value) :=
  if value.truthy then iterate value else some []

/-- `value or ""`, where a text is needed. -/
def text_or_empty (value : Value) : Option Text :=
  if value.truthy then value.as_str else some []

/-- `f"{value}"`. -/
def format_value : Value → Text
  | .String value => value
  | value => repr value

def support_disclose (claim evidence_items : Value) : Option Value := do
  let items ← iterate_or_empty evidence_items
  let stripped_items ← items.mapM stripped
  let n := (stripped_items.filterMap id).length
  pure (object (
    if n = 0 then [
      ("level", text "no_support"),
      ("label", text "ยังยืนยันไม่ได้"),
      ("can_assert", .Boolean false),
      ("disclosure_text", .String ("ยังยืนยันไม่ได้ค่ะ ไม่มี evidence รองรับ claim: '".toList
        ++ format_value repr claim ++ ['\'']))]
    else if n ≤ 2 then [
      ("level", text "low_support"),
      ("label", text "support ต่ำ — หลักฐานยังน้อย"),
      ("can_assert", .Boolean false),
      ("disclosure_text", .String ("support ต่ำค่ะ มีแค่ ".toList ++ count_text n
        ++ " evidence item — ยังเป็นข้อสรุปชั่วคราว".toList))]
    else [
      ("level", text "supported"),
      ("label", text "supported"),
      ("can_assert", .Boolean true),
      ("disclosure_text", .String ("supported — มี ".toList ++ count_text n
        ++ " evidence items รองรับ".toList))]))

/-- The words of an inference; one more than `INFERRED_KEYWORDS`. -/
def inferred_words : List Text :=
  ["logic", "เพราะ", "น่าจะ", "therefore", "infer", "conclude"].map String.toList

def claim_tag (claim basis : Value) : Option Value := do
  let basis ← (text_or_empty basis).map (trim is_whitespace)
  let _ ← strip claim
  let tagged : Text × Text :=
    if basis = [] then ("unknown".toList, "ไม่มี basis ระบุ — ยังไม่รู้และต้องบอกตรง ๆ".toList)
    else if mentions (["log", "file", "test", "output", "result", "timestamp"].map String.toList)
        (lower basis) then
      ("observed".toList, "มี direct evidence: ".toList ++ basis)
    else if mentions inferred_words (lower basis) then
      ("inferred".toList, "สรุปจาก logic แต่ยังไม่ verify ตรง: ".toList ++ basis)
    else if mentions (["assume", "สมมติ", "probably", "likely", "คิดว่า"].map String.toList)
        (lower basis) then
      ("assumed".toList, "สมมติฐานที่ยังไม่ยืนยัน: ".toList ++ basis)
    else ("inferred".toList, "basis ไม่ชัดพอที่จะ verify ตรง: ".toList ++ basis)
  pure (object [
    ("tag", .String tagged.1),
    ("explanation", .String tagged.2),
    ("display_label", .String ('[' :: tagged.1 ++ [']']))])

structure DriftMeta where
  signals : List Text
  description : String
  severity : String

def DRIFT_BUGS : List (String × DriftMeta) :=
  [("sycophancy",
    { signals := ["ขอโทษ", "sorry", "apologize", "โทษ", "ผิดพลาดที่"].map String.toList
      description := "เริ่มด้วย apology โดยไม่มี analysis"
      severity := "stop" }),
   ("self_created_plan",
    { signals := ["จะทำเลย", "implement ทันที", "ลงมือ", "เริ่มได้เลย", "จัดการให้เลย"].map String.toList
      description := "propose action โดยไม่มี authority_ref"
      severity := "stop" }),
   ("recency_bias",
    { signals := ["เมื่อกี้บอกว่า", "จากที่พึ่งพูด", "ข้อความล่าสุด", "เพิ่งบอก"].map String.toList
      description := "override decision เดิมเพราะข้อความล่าสุด"
      severity := "warn" }),
   ("performance_bias",
    { signals := ["แก้โค้ด", "edit file", "แก้ไฟล์", "fix the code", "change line"].map String.toList
      description := "เสนอ code change ก่อนเข้าใจ root cause"
      severity := "warn" }),
   ("skip_foundation",
    { signals := ["ข้ามไป", "skip", "ทำ step ถัดไป", "next task"].map String.toList
      description := "dispatch งาน N+1 ก่อน N เสร็จ"
      severity := "warn" }),
   ("lazy_reading",
    { signals := ["น่าจะเป็น", "คงจะ", "probably the same", "ตามเดิม"].map String.toList
      description := "หลุด critical constraint ใน task/spec"
      severity := "warn" })]

/-- The bugs that a text shows, one for each kind at most. -/
def bugs_in (text : Text) : List (Text × String × DriftMeta) :=
  DRIFT_BUGS.filterMap fun entry =>
    (entry.2.signals.find? fun signal => lower signal <:+: text).map fun signal =>
      (signal, entry.1, entry.2)

def drift_check (reasoning_snippet proposed_action : Value) : Option Value := do
  let snippet ← reasoning_snippet.as_str
  let action ← text_or_empty proposed_action
  let bugs_detected := bugs_in lower (lower (snippet ++ ' ' :: action))
  pure (object [
    ("bugs_detected", .Array (bugs_detected.map fun found => object [
      ("bug", text found.2.1),
      ("signal", .String ("พบ '".toList ++ found.1 ++ "' ใน reasoning".toList)),
      ("description", text found.2.2.description),
      ("severity", text found.2.2.severity)])),
    ("clean", .Boolean (bugs_detected.length = 0)),
    ("stop", .Boolean (bugs_detected.any fun found => found.2.2.severity = "stop"))])

/-! ## Tier 2 -/

/-- `value or []`. -/
def or_empty (value : Value) : Value := if value.truthy then value else .Array []

def scamper_fill (base_object improvement_target eliminate reverse blind_spot
    smallest_next_experiment substitute combine adapt modify put_to_other_use guardrail : Value) :
    Option Value := do
  let blind ← strip blind_spot
  let experiment ← strip smallest_next_experiment
  let missing :=
    (if eliminate.truthy then [] else ["eliminate".toList])
      ++ (if reverse.truthy then [] else ["reverse".toList])
      ++ (if blind = [] then ["blind_spot".toList] else [])
      ++ (if experiment = [] then ["smallest_next_experiment".toList] else [])
  pure (object [
    ("base_object", base_object),
    ("improvement_target", improvement_target),
    ("ideas", object [
      ("substitute", or_empty substitute),
      ("combine", or_empty combine),
      ("adapt", or_empty adapt),
      ("modify", or_empty modify),
      ("put_to_other_use", or_empty put_to_other_use),
      ("eliminate", eliminate),
      ("reverse", reverse)]),
    ("blind_spot", blind_spot),
    ("guardrail", guardrail),
    ("smallest_next_experiment", smallest_next_experiment),
    ("missing", strings missing),
    ("ready", .Boolean (missing.length = 0))])

/-- Membership in a list of texts is decided by comparing them. -/
local instance lawful_text : LawfulBEq Text := inferInstance

def BOTTLENECK_AREAS : List Text := ["lead", "sales", "delivery", "profit"].map String.toList

def business_gate (recommendation domain bottleneck_evidence : Value) : Option Value := do
  let recommendation ← strip recommendation
  let domain := lower (← strip domain)
  let evidence ← stripped bottleneck_evidence
  let bottleneck_area := if domain ∈ BOTTLENECK_AREAS then domain else "unknown".toList
  let bottleneck_diagnosed := evidence.isSome && bottleneck_area ≠ "unknown".toList
  let kpi_anchor :=
    if bottleneck_diagnosed then object [
      ("do_x", .String recommendation),
      ("measure_y", .String ("metric ที่วัดผล ".toList ++ bottleneck_area)),
      ("target_z", text "ระบุเป้าหมายเป็นตัวเลขชัดเจน")]
    else .Null
  let block_reason :=
    if bottleneck_diagnosed then none
    else if bottleneck_area = "unknown".toList then
      some "ยังไม่ diagnose ว่าติดที่ lead/sales/delivery/profit — ต้องหา evidence ก่อน".toList
    else some ("domain='".toList ++ domain
      ++ "' แต่ยังไม่มี bottleneck_evidence — ต้องระบุก่อน".toList)
  pure (object [
    ("bottleneck_diagnosed", .Boolean bottleneck_diagnosed),
    ("bottleneck_area", .String bottleneck_area),
    ("bottleneck_evidence", bottleneck_evidence),
    ("kpi_anchor", kpi_anchor),
    ("can_proceed", .Boolean bottleneck_diagnosed),
    ("block_reason", optional_text block_reason)])

/-! ## Tier 3 -/

def DESTRUCTIVE_ACTIONS : List Text := ["delete", "move", "overwrite"].map String.toList

def pre_change_notice (action_type file_path reason expected_outcome risk_or_rollback : Value) :
    Option Value := do
  let action_type := lower (← strip action_type)
  let file_path ← strip file_path
  let reason ← strip reason
  let expected_outcome ← strip expected_outcome
  let risk_or_rollback ← strip risk_or_rollback
  let missing := notice_missing reason expected_outcome risk_or_rollback
  let requires_approval := decide (action_type ∈ DESTRUCTIVE_ACTIONS) || missing.isEmpty
  let display := notice_display (upper action_type) file_path reason expected_outcome
    risk_or_rollback
  pure (object [
    ("notice", object [
      ("what", .String (action_type ++ ' ' :: file_path)),
      ("why", .String reason),
      ("outcome", .String expected_outcome),
      ("downside", .String risk_or_rollback)]),
    ("requires_approval", .Boolean requires_approval),
    ("display_text", .String (if requires_approval && decide (action_type ∈ DESTRUCTIVE_ACTIONS)
      then approval_display display else display)),
    ("missing", strings missing),
    ("valid", .Boolean (missing.length = 0))])

/-- Whether a field of a plan is missing. -/
def list_missing : Value → Bool
  | .Null => true
  | .Array items => items.length = 0
  | .String value => trim is_whitespace value = []
  | _ => false

def REQUIRED_PLAN_FIELDS : List String :=
  ["objective", "steps", "files_affected", "risks", "acceptance_criteria"]

/-- The fields of an object, and of any other value none. -/
def fields_of : Value → List (Text × Value)
  | .Object fields => fields
  | _ => []

def batch_checks (batch : List (Text × Value)) : List (String × Value) :=
  let scope := fields_of (get batch "scope" .Null)
  [("autonomous_batch.authority", get batch "authority" .Null),
    ("autonomous_batch.scope.include", get scope "include" .Null),
    ("autonomous_batch.scope.exclude", get scope "exclude" .Null),
    ("autonomous_batch.stop_conditions", get batch "stop_conditions" .Null),
    ("autonomous_batch.commit_policy", get batch "commit_policy" .Null)]

/-- The names of some checked values that are missing. -/
def missing_names (checks : List (String × Value)) : List Text :=
  (checks.filter fun check => list_missing check.2).map fun check => check.1.toList

def batch_missing (batch : Value) : List Text :=
  match batch with
  | .Object batch =>
    if (get batch "enabled" .Null).truthy then missing_names (batch_checks batch) else []
  | _ => []

def plan_before_dispatch : Value → Option Value
  | .Object plan =>
    let missing := missing_names (REQUIRED_PLAN_FIELDS.map fun field => (field, get plan field .Null))
      ++ batch_missing (get plan "autonomous_batch" .Null)
    some (plan_result missing)
  | _ => none

/-- `not val or (isinstance(val, str) and not val.strip())`. -/
def blank_value (val : Value) : Bool :=
  !val.truthy || (match val with
    | .String value => trim is_whitespace value = []
    | _ => false)

def has_placeholder (val : Value) : Bool :=
  match val with
  | .String value => mentions PLACEHOLDER_TOKENS (upper value)
  | _ => false

/-- `fail_reason`: the note on `stop_if_missing` is put in front of the parts. -/
def fail_reason (stop_if_missing : Bool) (missing placeholder : List Text) : Text :=
  let parts :=
    (if missing = [] then []
      else ["missing ".toList ++ count_text missing.length ++ " fields: ".toList
        ++ comma_separated missing])
      ++ (if placeholder = [] then []
        else ["placeholder in: ".toList ++ comma_separated placeholder])
  [' '].intercalate (if stop_if_missing then "stop_if_missing=true —".toList :: parts else parts)

def dispatch_blocker_check (inputs : List (String × Value)) (writable_scope stop_if_missing : Value) :
    Option Value :=
  let missing := (inputs.filter fun entry => blank_value entry.2).map (fun entry => entry.1.toList)
    ++ (if writable_scope.truthy then [] else ["writable_scope".toList])
  let placeholder := (inputs.filter fun entry =>
    !blank_value entry.2 && has_placeholder upper entry.2).map fun entry => entry.1.toList
  let ready := missing.length = 0 && placeholder.length = 0
  some (object [
    ("ready", .Boolean ready),
    ("missing_fields", strings missing),
    ("placeholder_fields", strings placeholder),
    ("verdict", if ready then text "PASS" else text "FAIL"),
    ("fail_reason", optional_text (if ready then none
      else some (fail_reason stop_if_missing.truthy missing placeholder)))])

/-! ## Calls -/

def call (order : List Text) (tool : Tool) (args : Args) : Option Value :=
  match tool with
  | .sati_check => do sati_check (← field args "action") (get args "context" (.String []))
  | .temporal_gate => do
    temporal_gate lower order (← field args "claim") (get args "claim_type" (text "causal"))
      (get args "evidence_source" .Null)
  | .support_disclose => do
    support_disclose repr (← field args "claim") (get args "evidence_items" .Null)
  | .claim_tag => do claim_tag lower (← field args "claim") (get args "basis" .Null)
  | .drift_check => do
    drift_check lower (← field args "reasoning_snippet") (get args "proposed_action" .Null)
  | .scamper_fill => do
    scamper_fill (← field args "base_object") (← field args "improvement_target")
      (← field args "eliminate") (← field args "reverse") (← field args "blind_spot")
      (← field args "smallest_next_experiment") (get args "substitute" .Null)
      (get args "combine" .Null) (get args "adapt" .Null) (get args "modify" .Null)
      (get args "put_to_other_use" .Null) (get args "guardrail" (.String []))
  | .business_gate => do
    business_gate lower (← field args "recommendation") (get args "domain" (text "other"))
      (get args "bottleneck_evidence" .Null)
  | .pre_change_notice => do
    pre_change_notice lower upper (← field args "action_type") (← field args "file_path")
      (← field args "reason") (← field args "expected_outcome") (← field args "risk_or_rollback")
  | .plan_before_dispatch => do plan_before_dispatch (← field args "plan")
  | .dispatch_blocker_check =>
    dispatch_blocker_check upper (required_fields.map fun name => (name, get args name .Null))
      (get args "writable_scope" .Null) (get args "stop_if_missing" (.Boolean true))

end Tools

end PolicyToolsServer

end OvcaCore
