import Mathlib.Data.List.Basic
import Payments.Presentation.Responses

namespace Payments
namespace Properties

open Domain Application Presentation

/-!
# What a response tells the client

The texts of the locale files hold no placeholder, so the message of a domain
error is the text of its code and nothing of its details gets into it.  The
status comes from the code alone.
-/

variable {settings : ApiSettings} {locale : Presentation.Locale} {incoming : Incoming} {error : Error}
  {response : Response}

/-! ## Messages -/

/-- Without a brace there is no placeholder. -/
theorem replaced_absent (name new : List Char) {text : List Char} (absent : '\x7b' ∉ text) :
    replace_text ('\x7b' :: name) new 0 text = text := by
  induction text with
  | nil => rfl
  | cons head tail inductionHypothesis =>
      have apart : ('\x7b' == head) = false := by
        rw [beq_eq_false_iff_ne]
        rintro rfl
        exact absent List.mem_cons_self
      have prefixed : ('\x7b' :: name).isPrefixOf (head :: tail) = false := by
        rw [List.isPrefixOf, apart, Bool.false_and]
      rw [replace_text, prefixed, inductionHypothesis (fun listed => absent (List.mem_cons_of_mem _ listed))]
      rfl

/-- A text, not empty and without a brace. -/
def plain_text : Translations -> Bool
  | .text value => decide (value ≠ "" ∧ '\x7b' ∉ value.toList)
  | .group _ => false

theorem substituted {value : String} (absent : '\x7b' ∉ value.toList) (params : List (String × String)) :
    params.foldl substitute value = value := by
  induction params with
  | nil => rfl
  | cons head tail inductionHypothesis =>
      have same : substitute value head = value := by
        rw [substitute, List.cons_append, replaced_absent _ _ absent, String.ofList_toList]
      rw [List.foldl_cons, same, inductionHypothesis]

theorem resolved_code (code locale : String) : (translator settings).resolve ["error", "codes", code] locale =
    if locale = "en" then codes_en.lookup code else if locale = "ru" then codes_ru.lookup code else none := by
  by_cases english : locale = "en"
  · subst english
    rfl
  · by_cases russian : locale = "ru"
    · subst russian
      rfl
    · have missing : (translator settings).cache.lookup locale = none := by
        have neither : (locale == "en") = false ∧ (locale == "ru") = false :=
          ⟨beq_eq_false_iff_ne.mpr english, beq_eq_false_iff_ne.mpr russian⟩
        simp only [translator, locales, List.lookup_cons, List.lookup_nil, neither.1, neither.2]
      rw [JsonTranslator.resolve, missing, if_neg english, if_neg russian]
      rfl

theorem code_texts_plain {code locale : String} {found : Translations}
    (resolved : (translator settings).resolve ["error", "codes", code] locale = some found) : plain_text found = true := by
  have all : forall entry, entry ∈ codes_en ++ codes_ru -> plain_text entry.2 = true := by decide +kernel
  have listed : forall entries : List (String × Translations), entries.lookup code = some found ->
      Exists fun key => (key, found) ∈ entries := by
    intro entries
    induction entries with
    | nil => exact fun impossible => by cases impossible
    | cons head tail inductionHypothesis =>
        intro looked
        rw [List.lookup_cons] at looked
        split at looked
        · cases looked
          exact ⟨head.1, List.mem_cons_self⟩
        · rcases inductionHypothesis looked with ⟨key, member⟩
          exact ⟨key, List.mem_cons_of_mem _ member⟩
  rw [resolved_code] at resolved
  split at resolved
  · rcases listed _ resolved with ⟨key, member⟩
    exact all (key, found) (List.mem_append_left _ member)
  · split at resolved
    · rcases listed _ resolved with ⟨key, member⟩
      exact all (key, found) (List.mem_append_right _ member)
    · cases resolved

/-- There is a message for every code, and it does not depend on the details. -/
theorem message_plain (settings : ApiSettings) (code : String) (locale : Presentation.Locale) :
    Exists fun text => forall params, message settings code locale params = some text := by
  have plain_of : forall {locale : String} {found : Translations},
      (translator settings).resolve ["error", "codes", code] locale = some found ->
      Exists fun value => found = .text value ∧ value ≠ "" ∧ '\x7b' ∉ value.toList := by
    intro locale found resolved
    have plain := code_texts_plain resolved
    cases found with
    | text value => exact ⟨value, rfl, of_decide_eq_true plain⟩
    | group entries => cases plain
  cases found : (translator settings).resolve ["error", "codes", code] locale.code with
  | some translations =>
      rcases plain_of found with ⟨value, rfl, nonempty, absent⟩
      refine ⟨value, fun params => ?_⟩
      have truthy : JsonTranslator.truthy (some (.text value)) = true := decide_eq_true nonempty
      simp only [message, JsonTranslator.translate, found, truthy, if_true, substituted absent]
  | none =>
      cases fallback : (translator settings).resolve ["error", "codes", code] (translator settings).default with
      | none =>
          refine ⟨".".intercalate ["error", "codes", code], fun params => ?_⟩
          simp only [message, JsonTranslator.translate, found, JsonTranslator.truthy, Bool.false_eq_true, if_false,
            fallback]
      | some translations =>
          rcases plain_of fallback with ⟨value, rfl, _, absent⟩
          refine ⟨value, fun params => ?_⟩
          simp only [message, JsonTranslator.translate, found, JsonTranslator.truthy, Bool.false_eq_true, if_false,
            fallback, substituted absent]

/-! ## Statuses -/

/-- The headers that name a request in its response. -/
def identities (incoming : Incoming) : List (String × String) :=
  [("X-Request-ID", incoming.headers.request_id incoming.generated),
    ("X-Correlation-ID", incoming.headers.correlation_id incoming.generated)]

/-- A domain error is told with the status of its code. -/
theorem respond_domain {code : String} (coded : Presentation.code error = some code) :
    Exists fun text => respond settings incoming (.error (.handler error)) =
      some ⟨(DOMAIN_HTTP_STATUS.lookup code).getD 500, .domain_error code text (details error), identities incoming⟩ := by
  rcases message_plain settings code (LocaleMiddleware.locale settings incoming.accept_language) with ⟨text, messages⟩
  refine ⟨text, ?_⟩
  have handled : handle_domain settings (LocaleMiddleware.locale settings incoming.accept_language) error =
      some ⟨(DOMAIN_HTTP_STATUS.lookup code).getD 500, .domain_error code text (details error), []⟩ := by
    rw [handle_domain, coded]
    simp only [messages, Option.map_some]
  cases error with
  | cancelled => cases coded
  | _ =>
      simp only [respond, exception_response, handled]
      rfl

/-- Every other exception is told without anything about the request. -/
theorem respond_unhandled (uncoded : Presentation.code error = none)
    (answered : respond settings incoming (.error (.handler error)) = some response) :
    response = handle_unhandled "none" ∧ error ≠ .cancelled := by
  have handled : handle_domain settings (LocaleMiddleware.locale settings incoming.accept_language) error = none := by
    rw [handle_domain, uncoded]
  cases error with
  | cancelled => cases answered
  | _ =>
      simp only [respond, exception_response, handled] at answered
      cases answered
      exact ⟨rfl, by simp⟩

/-- The correlation that a payment is stored under is the one of its request. -/
theorem correlated_of_received {request : PostPayments} {command : CreatePaymentCommand}
    (received : request.command settings = .ok command) :
    command.correlation_id = some (request.incoming.headers.correlation_id request.incoming.generated) := by
  unfold PostPayments.command at received
  cases required : require_api_key settings request.incoming.x_api_key with
  | error raised =>
      rw [required] at received
      cases received
  | ok _ =>
      rw [required] at received
      simp only [bind, Except.bind] at received
      split at received
      · cases received
        rfl
      · cases received

end Properties
end Payments
