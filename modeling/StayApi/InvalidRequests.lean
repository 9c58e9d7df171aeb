import StayApi.HttpExceptionFilter
import StayApi.JsonRoundTrip
import StayApi.ValidationPipe

/-!
# What an invalid request is answered

The way of the validation errors of a request: the pipe's exception factory
makes an exception of them, the filter a response, and the response is sent as
JSON, from which the client reads the properties that failed.
-/

namespace StayApi

open HttpExceptionFilter

namespace CustomValidationPipe

/-- `plain` is what `new HttpErrorByCode[this.errorHttpStatusCode]()` makes,
and `stack` the stack of an error made here. -/
def createExceptionFactory (isDetailedOutputDisabled : Bool) (plain : Exception) (stack : JsValue)
    (validationErrors : List ValidationError) : Except Exception Exception :=
  if isDetailedOutputDisabled then .ok plain
  else
    match getExceptionObj validationErrors with
    | .ok exceptionObj => .ok (.apiError (.new exceptionObj) stack ⟨.ok none⟩)
    | .error error => .error (.apiError error stack ⟨.ok none⟩)

/-- The pipe throws what the factory returns; what the factory throws is thrown as well. -/
def thrown (isDetailedOutputDisabled : Bool) (plain : Exception) (stack : JsValue)
    (validationErrors : List ValidationError) : Exception :=
  match createExceptionFactory isDetailedOutputDisabled plain stack validationErrors with
  | .ok exception => exception
  | .error exception => exception

end CustomValidationPipe

namespace HttpExceptionFilter

def detailsJson (details : OrdMap String String) : Json := .obj (details.properties.map fun e => (e.1, .str e.2))

/-- The object given to `response.json`; what is undefined is left out of its text. -/
def ErrorBody.json (body : ErrorBody) : Json :=
  .obj (("errorCode", .str body.errorCode) :: ((body.details.map fun details => ("details", detailsJson details)).toList ++
    (body.message.map fun message => ("message", .str message)).toList))

def ErrorBody.text (body : ErrorBody) : String := JsonText.stringify body.json

/-- The data of the request that the logger shows has a text. -/
def Request.hasText (request : Request) : Bool :=
  (request.method ≠ "POST" ∨ request.body.hasText) ∧ (request.method ≠ "GET" ∨ request.params.hasText) ∧
    (request.method ≠ "GET" ∨ request.query.hasText)

section
variable {logger : Logger} {error : ApiError} {stack responseData : JsValue} {request : Request}

theorem catch_apiError (hl : PrintsTexts logger)
    (hr : readable logger (.apiError error stack responseData) request = true) : ∃ entry,
    (catchException logger (.apiError error stack responseData) request).run {} =
      (.ok (), ⟨[entry], [(error.status, ⟨error.error_code.text, error.details, error.message⟩)]⟩) := by
  have hlog := logs_exceptionLogger hl (.apiError error stack responseData) request {}
  rw [if_pos hr] at hlog
  obtain ⟨entry, hlog⟩ := hlog
  refine ⟨entry, ?_⟩
  unfold catchException
  rw [run_bind_ok hlog]
  rfl

theorem wellFormed_details (details : OrdMap String String) : JsonText.wellFormed (detailsJson details) = true := by
  have hkeys : (details.properties.map fun e => (e.1, Json.str e.2)).map Prod.fst = details.properties.map Prod.fst := by
    rw [List.map_map]
    rfl
  have hfields : ∀ es : List (String × String),
      JsonText.fieldsWellFormed (es.map fun e => (e.1, Json.str e.2)) = true := by
    intro es
    induction es with
    | nil => rfl
    | cons e es ih => simpa [JsonText.fieldsWellFormed, JsonText.wellFormed] using ih
  simp [detailsJson, JsonText.wellFormed, hkeys, details.nodup_properties, hfields]

theorem parse_text (body : ErrorBody) : JsonText.parse body.text = some body.json := by
  apply JsonText.parse_stringify
  obtain ⟨errorCode, details, message⟩ := body
  cases details <;> cases message <;>
    simp [ErrorBody.json, JsonText.wellFormed, JsonText.fieldsWellFormed, wellFormed_details]

end

end HttpExceptionFilter

/-! ## The way to the client -/

namespace CustomValidationPipe

section
variable {errors : List ValidationError} {logger : Logger} {stack : JsValue} {request : Request}

theorem thrown_eq (hne : errors ≠ []) (plain : Exception) (stack : JsValue) : thrown false plain stack errors =
    .apiError (.new ⟨.INVALID_ARGUMENT_ERROR, some (processValidationErrors errors .empty ""), none⟩) stack ⟨.ok none⟩ := by
  unfold thrown createExceptionFactory getExceptionObj
  rw [if_neg (by simp), if_neg (by simpa using hne)]

theorem readable_thrown (hne : errors ≠ []) (plain : Exception) :
    readable logger (thrown false plain stack errors) request = request.hasText := by
  rw [thrown_eq hne plain stack]
  rfl

theorem marks_flat (hn : WellNamed errors) :
    Marks (processValidationErrors errors .empty "") (Constrained [] errors) := by
  have h : Marks (processValidationErrors errors .empty (dotted [])) (fun key => False ∨ Constrained [] errors key) :=
    marks_processValidationErrors hn (by simp) marks_empty
  exact h.congr (by simp)

theorem constrained_dotted (hn : WellNamed errors) {names : List String} (hne : names ≠ [])
    (hp : ∀ s ∈ names, ProperName s) :
    Constrained [] errors (dotted names) ↔
      ∃ address node, NodeAt errors address names node ∧ node.constraints.isSome := by
  constructor
  · rintro ⟨address, names', node, hnode, hc, hk⟩
    obtain ⟨hne', hp'⟩ := hnode.names_proper hn
    obtain rfl : names = names' := Delimited.intercalate_injective dot_toList hne hne'
      (fun s hs => (hp s hs).undotted) (fun s hs => (hp' s hs).undotted) hk
    exact ⟨address, node, hnode, hc⟩
  · rintro ⟨address, node, hnode, hc⟩
    exact ⟨address, names, node, hnode, hc, rfl⟩

end

/-- **What the client reads.** A request that fails validation is answered once, with status 400 and a body whose
details have a member for the path of each constrained property and no other member, and it is logged once; but if
`JSON.stringify` throws on the data to be logged, this call of `catch` neither answers nor logs it, and throws. -/
theorem invalid_request_told (logger : Logger) (hl : PrintsTexts logger) (errors : List ValidationError)
    (hne : errors ≠ []) (hn : WellNamed errors) (plain : Exception) (stack : JsValue) (request : Request) :
    (request.hasText = true → ∃ entry body details,
      (catchException logger (thrown false plain stack errors) request).run {} = (.ok (), ⟨[entry], [(400, body)]⟩) ∧
      JsonText.parse body.text = some (.obj [("errorCode", .str "INVALID_ARGUMENT_ERROR"), ("details", .obj details)]) ∧
      (details.map Prod.fst).Nodup ∧
      (∀ key value, (key, value) ∈ details →
        value = .str "invalid" ∧ ∃ names, names ≠ [] ∧ (∀ s ∈ names, ProperName s) ∧ key = dotted names) ∧
      ∀ names, names ≠ [] → (∀ s ∈ names, ProperName s) →
        (dotted names ∈ details.map Prod.fst ↔
          ∃ address node, NodeAt errors address names node ∧ node.constraints.isSome)) ∧
    (request.hasText = false →
      ∃ error, (catchException logger (thrown false plain stack errors) request).run {} = (.error error, {})) := by
  have hkey := marks_flat hn
  have hthrown := thrown_eq hne plain stack
  have hread : readable logger (thrown false plain stack errors) request = request.hasText := readable_thrown hne plain
  constructor
  · intro ht
    rw [ht, hthrown] at hread
    obtain ⟨entry, hrun⟩ := catch_apiError hl hread
    rw [hthrown]
    refine ⟨entry, _, _, hrun, parse_text _, ?_, ?_, ?_⟩
    · rw [List.map_map]
      exact OrdMap.nodup_properties _
    · intro key value hmem
      obtain ⟨⟨key', text⟩, he, hk⟩ := List.mem_map.mp hmem
      obtain ⟨rfl, rfl⟩ := Prod.mk.inj hk
      obtain ⟨rfl, address, names, node, hnode, -, rfl⟩ := (hkey key' text).mp (OrdMap.get_of_mem ((OrdMap.properties_perm _).mem_iff.mp he))
      obtain ⟨hnil, hproper⟩ := hnode.names_proper hn
      exact ⟨rfl, names, hnil, hproper, rfl⟩
    · intro names hnil hproper
      rw [← constrained_dotted hn hnil hproper, List.map_map]
      show dotted names ∈ (processValidationErrors errors .empty "").properties.map Prod.fst ↔ _
      rw [OrdMap.mem_properties, Option.isSome_iff_exists]
      simp [hkey (dotted names)]
  · intro ht
    rw [ht] at hread
    exact catch_unreadable hl hread

def postRequest : Request := ⟨"POST", ⟨.ok (some "{}")⟩, ⟨.ok none⟩, ⟨.ok none⟩⟩

theorem invalid_request_told_nested : ∃ entry body details,
    (catchException callingLogger (thrown false .undefined ⟨.ok none⟩ stayErrors) postRequest).run {} =
      (.ok (), ⟨[entry], [(400, body)]⟩) ∧
    JsonText.parse body.text = some (.obj [("errorCode", .str "INVALID_ARGUMENT_ERROR"), ("details", .obj details)]) ∧
    "address.city" ∈ details.map Prod.fst := by
  obtain ⟨entry, body, details, hrun, htext, -, -, hkeys⟩ :=
    (invalid_request_told callingLogger callingLogger_prints stayErrors (by simp [stayErrors]) stayErrors_wellNamed .undefined ⟨.ok none⟩ postRequest).1 rfl
  refine ⟨entry, body, details, hrun, htext, ?_⟩
  have hcity : NodeAt stayErrors [0, 0] ["address", "city"] cityError :=
    .child (show stayErrors[0]? = some addressError from rfl) (.here (show addressError.children[0]? = some cityError from rfl))
  exact (hkeys ["address", "city"] (by simp) (hcity.names_proper stayErrors_wellNamed).2).mpr ⟨_, _, hcity, rfl⟩

end CustomValidationPipe

end StayApi
