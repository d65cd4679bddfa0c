/-
What can be told from the message of a refused configuration.

A message is a few fixed words and the refused value in writing.  Durations and quoted texts are
read back from their writing, so the message tells what was refused
(`ConfigError.message_injective`), and neither of them has a character that breaks the line
(`ConfigError.message_isOneLine`).  What is refused is the retention or the text as it was given
(`Meter.configured_eq_error_iff`, `ServerConfig.exists_of_ofVariables_eq_error`), so nothing is lost
before the message is written.
-/
import RequestMeter.Proofs.Config.Starting
import RequestMeter.Proofs.Text.Unquoting
import RequestMeter.Proofs.Time.WrittenDurations

namespace RequestMeter

open Text

/-! ### A duration is written on one line -/

namespace Duration

private theorem not_breaksLine_of_isNumeric {c : Char} (h : isNumeric c = true) :
    ¬ BreaksLine c := by
  rw [isNumeric, Bool.or_eq_true, Char.isDigit_iff_toNat, beq_iff_eq] at h
  rcases h with ⟨hlow, hhigh⟩ | rfl
  · change 48 ≤ c.toNat at hlow
    change c.toNat ≤ 57 at hhigh
    unfold BreaksLine
    omega
  · decide

theorem written_isOneLine (d : Duration) : IsOneLine d.written := by
  have hsymbol : ∀ u : TimeUnit, IsOneLine u.symbol := by
    intro u
    cases u <;> decide
  obtain ⟨number, _, hwritten, hnumeric, -, -⟩ := d.exists_written_eq
  rw [hwritten]
  exact IsOneLine.append (fun c hc => not_breaksLine_of_isNumeric (hnumeric c hc)) (hsymbol _)

/-- Below a second a duration is a number of nanoseconds, microseconds or milliseconds. -/
theorem exists_written_eq_of_lt_second {d : Duration} (h : d < second) :
    ∃ number unit, d.written = number ++ TimeUnit.symbol unit ∧
      (∀ c ∈ number, isNumeric c = true) ∧
      (unit = .nanosecond ∨ unit = .microsecond ∨ unit = .millisecond) := by
  obtain ⟨number, _, hwritten, hnumeric, -, -⟩ := d.exists_written_eq
  refine ⟨number, d.largestUnit, hwritten, hnumeric, ?_⟩
  have hne := largestUnit_ne_second h
  cases hunit : d.largestUnit with
  | nanosecond => exact Or.inl rfl
  | microsecond => exact Or.inr (Or.inl rfl)
  | millisecond => exact Or.inr (Or.inr rfl)
  | second => exact absurd hunit hne

end Duration

namespace ConfigError

/-! ### Messages

The fixed words of a message tell its kind, and the name behind them tells the variable.  What is
left after them is a writing, and equal writings are read back as the same.
-/

theorem toList_message_retentionTooShort (d : Duration) :
    (retentionTooShort d).message.toList =
      "Retention must be at least one second, got ".toList ++ d.written := by
  unfold message
  simp only [String.toList_append, String.toList_ofList]

theorem toList_message_invalidVariable (setting : Setting) (value : String) :
    (invalidVariable setting value).message.toList =
      "Invalid value for ".toList ++
        (setting.name.toList ++ (": ".toList ++ quoted value.toList)) := by
  unfold message
  simp only [String.toList_append, String.toList_ofList, List.append_assoc]

/-- No message is broken, whatever was refused. -/
theorem message_isOneLine (e : ConfigError) : IsOneLine e.message.toList := by
  cases e with
  | retentionTooShort d =>
      have hwords : IsOneLine "Retention must be at least one second, got ".toList := by
        decide +kernel
      rw [toList_message_retentionTooShort]
      exact hwords.append d.written_isOneLine
  | invalidVariable setting value =>
      have hwords : IsOneLine "Invalid value for ".toList ∧ IsOneLine ": ".toList := by
        decide +kernel
      have hname : IsOneLine setting.name.toList := by
        cases setting <;> decide +kernel
      rw [toList_message_invalidVariable]
      exact hwords.1.append (hname.append (hwords.2.append (quoted_isOneLine _)))

/-- The names of two variables already differ in the characters that both are long. -/
private theorem setting_eq_of_append_eq {setting setting' : Setting} {s s' : List Char}
    (h : setting.name.toList ++ s = setting'.name.toList ++ s') : setting = setting' := by
  have htake := congrArg (List.take 12) h
  cases setting with
  | bind =>
      cases setting' with
      | bind => rfl
      | retention => simp [Setting.name] at htake
  | retention =>
      cases setting' with
      | bind => simp [Setting.name] at htake
      | retention => rfl

/-- The message tells which value was refused, and why. -/
theorem message_injective {e e' : ConfigError} (h : e.message = e'.message) : e = e' := by
  have hchars := congrArg String.toList h
  cases e with
  | retentionTooShort d =>
      rw [toList_message_retentionTooShort] at hchars
      cases e' with
      | retentionTooShort d' =>
          rw [toList_message_retentionTooShort] at hchars
          have hread := congrArg Duration.readWritten? (List.append_cancel_left hchars)
          rw [Duration.readWritten?_written, Duration.readWritten?_written] at hread
          rw [Option.some.inj hread]
      | invalidVariable setting value =>
          -- messages of different kinds differ in their first letter
          rw [toList_message_invalidVariable] at hchars
          simp at hchars
  | invalidVariable setting value =>
      rw [toList_message_invalidVariable] at hchars
      cases e' with
      | retentionTooShort d' =>
          rw [toList_message_retentionTooShort] at hchars
          simp at hchars
      | invalidVariable setting' value' =>
          rw [toList_message_invalidVariable] at hchars
          -- the variable has to be the same before its name can be cancelled
          have hrest := List.append_cancel_left hchars
          obtain rfl := setting_eq_of_append_eq hrest
          have hquoted := List.append_cancel_left (List.append_cancel_left hrest)
          have hread := congrArg unquote? hquoted
          rw [unquote?_quoted, unquote?_quoted] at hread
          rw [String.toList_injective (Option.some.inj hread)]

end ConfigError

/-! ### What is refused -/

theorem Meter.configured_eq_error_iff {d : Duration} {reason : ConfigError} :
    configured d = .error reason ↔ d < .second ∧ reason = .retentionTooShort d := by
  unfold configured new?
  by_cases h : Duration.second ≤ d
  · rw [dif_pos h]
    constructor
    · intro herror
      cases herror
    · rintro ⟨hlt, -⟩
      exact absurd h (Nat.not_le.mpr hlt)
  · rw [dif_neg h]
    constructor
    · rintro ⟨⟩
      exact ⟨Nat.not_le.mp h, rfl⟩
    · rintro ⟨-, rfl⟩
      rfl

/-- Only a text is refused, and the error has it as it was given. -/
theorem ServerConfig.exists_of_ofVariables_eq_error {v : Variables} {reason : ConfigError}
    (h : ofVariables v = .error reason) :
    ∃ value, v.retention.bind String.fromUTF8? = some value ∧
      reason = .invalidVariable .retention value := by
  cases htext : v.retention.bind String.fromUTF8? with
  | none =>
      obtain ⟨config, hconfig, -⟩ := ofVariables_of_unset htext
      rw [hconfig] at h
      cases h
  | some value =>
      refine ⟨value, rfl, ?_⟩
      by_cases hno : ∀ n, SpellsRetention value n → Numeral.greatestUnsigned < n
      · rw [ofVariables_of_unspelled htext hno] at h
        exact (Except.error.inj h).symm
      · simp only [not_forall, Nat.not_lt] at hno
        obtain ⟨n, hspells, hle⟩ := hno
        obtain ⟨config, hconfig, -⟩ := ofVariables_of_spelled htext hspells hle
        rw [hconfig] at h
        cases h

namespace ConfigError

/--
**The message tells what was refused, on one line.**  The duration in it is a number and a unit
below the second, and the text in it is quoted; either is read back as what was refused, the text
with the blanks around it.  So two messages of a kind are the same only if the same was refused.
-/
theorem message_tells_refused :
    let text := fun v : Variables => v.retention.bind String.fromUTF8?
    (∀ d, d < Duration.second → ∃ reason number unit,
      Meter.configured d = .error reason ∧ IsOneLine reason.message.toList ∧
      reason.message.toList = "Retention must be at least one second, got ".toList ++
        (number ++ TimeUnit.symbol unit) ∧
      (∀ c ∈ number, Duration.isNumeric c = true) ∧
      (unit = .nanosecond ∨ unit = .microsecond ∨ unit = .millisecond) ∧
      Duration.readWritten? (number ++ unit.symbol) = some d) ∧
    (∀ v reason, ServerConfig.ofVariables v = .error reason → ∃ value form,
      text v = some value ∧ IsOneLine reason.message.toList ∧
      reason.message.toList = "Invalid value for BENCHMARKS_RETENTION_SECS: ".toList ++ form ∧
      unquote? form = some value.toList) ∧
    (∀ d d' reason reason', Meter.configured d = .error reason →
      Meter.configured d' = .error reason' → reason.message = reason'.message → d = d') ∧
    ∀ v v' reason reason', ServerConfig.ofVariables v = .error reason →
      ServerConfig.ofVariables v' = .error reason' → reason.message = reason'.message →
      text v = text v' := by
  intro text
  refine ⟨?_, ?_, ?_, ?_⟩
  · intro d hlt
    obtain ⟨number, unit, hwritten, hnumeric, hunit⟩ :=
      Duration.exists_written_eq_of_lt_second hlt
    have hmessage := toList_message_retentionTooShort d
    have hread := Duration.readWritten?_written d
    rw [hwritten] at hmessage hread
    exact ⟨_, number, unit, Meter.configured_eq_error_iff.mpr ⟨hlt, rfl⟩, message_isOneLine _,
      hmessage, hnumeric, hunit, hread⟩
  · intro v reason herror
    obtain ⟨value, htext, rfl⟩ := ServerConfig.exists_of_ofVariables_eq_error herror
    have hwords : "Invalid value for BENCHMARKS_RETENTION_SECS: ".toList =
        "Invalid value for ".toList ++ (Setting.retention.name.toList ++ ": ".toList) := by
      decide +kernel
    refine ⟨value, quoted value.toList, htext, message_isOneLine _, ?_, unquote?_quoted _⟩
    rw [toList_message_invalidVariable, hwords, List.append_assoc, List.append_assoc]
  · intro d d' reason reason' herror herror' hmessage
    obtain ⟨-, rfl⟩ := Meter.configured_eq_error_iff.mp herror
    obtain ⟨-, rfl⟩ := Meter.configured_eq_error_iff.mp herror'
    exact retentionTooShort.inj (message_injective hmessage)
  · intro v v' reason reason' herror herror' hmessage
    obtain ⟨value, htext, rfl⟩ := ServerConfig.exists_of_ofVariables_eq_error herror
    obtain ⟨value', htext', rfl⟩ := ServerConfig.exists_of_ofVariables_eq_error herror'
    obtain ⟨-, rfl⟩ := invalidVariable.inj (message_injective hmessage)
    exact htext.trans htext'.symm

/-- A retention that needs all places, a text with a line break and a mark in it, and the text that
the first one is quoted as. -/
theorem message_tells_refused_escapes :
    let retention : Duration := ⟨999999999, by decide⟩
    let broken : Variables := ⟨none, some "7\n\u0301".toUTF8⟩
    let escaped : Variables := ⟨none, some "7\\n\\u\x7b301\x7d".toUTF8⟩
    (∃ reason number unit, Meter.configured retention = .error reason ∧
      reason.message.toList = "Retention must be at least one second, got ".toList ++
        (number ++ TimeUnit.symbol unit) ∧
      Duration.readWritten? (number ++ unit.symbol) = some retention) ∧
    ∃ reason reason' form, ServerConfig.ofVariables broken = .error reason ∧
      ServerConfig.ofVariables escaped = .error reason' ∧ IsOneLine reason.message.toList ∧
      reason.message.toList = "Invalid value for BENCHMARKS_RETENTION_SECS: ".toList ++ form ∧
      unquote? form = some "7\n\u0301".toList ∧ reason.message ≠ reason'.message := by
  intro retention broken escaped
  obtain ⟨hretention, hvariable, -, hdistinct⟩ := message_tells_refused
  obtain ⟨short, number, unit, hshort, -, hmessage, -, -, hread⟩ :=
    hretention retention (by decide)
  have hbroken : broken.retention.bind String.fromUTF8? = some "7\n\u0301" := by decide +kernel
  have hescaped : escaped.retention.bind String.fromUTF8? = some "7\\n\\u\x7b301\x7d" := by
    decide +kernel
  have herror : ServerConfig.ofVariables broken =
      .error (.invalidVariable .retention "7\n\u0301") := by
    decide +kernel
  have herror' : ServerConfig.ofVariables escaped =
      .error (.invalidVariable .retention "7\\n\\u\x7b301\x7d") := by
    decide +kernel
  obtain ⟨value, form, htext, hline, hmessage', hread'⟩ := hvariable broken _ herror
  obtain rfl := Option.some.inj (hbroken.symm.trans htext)
  refine ⟨⟨short, number, unit, hshort, hmessage, hread⟩, _, _, form, herror, herror', hline,
    hmessage', hread', fun hsame => ?_⟩
  have htexts := hdistinct broken escaped _ _ herror herror' hsame
  simp only [hbroken, hescaped] at htexts
  exact absurd htexts (by decide)

end ConfigError

end RequestMeter
