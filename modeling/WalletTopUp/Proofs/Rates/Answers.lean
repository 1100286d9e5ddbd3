import WalletTopUp.Pipeline.Basic
import WalletTopUp.Proofs.Decimal.Text
import WalletTopUp.Proofs.Service.Learning

/-!
# What the results of the pipeline's dialogues rest on

A conversion that succeeds is the broker's answer for exactly the amount that was asked for, rounded
down; a bonus is the answer for the tokens that the broker's answer comes to; limits are the answer
for their currency.
-/

namespace WalletTopUp

variable {learned : (request : Request) → request.Answer → Prop}

namespace Converter

/-- A printed decimal has nothing to trim. -/
theorem trimmed_toText (amount : Decimal) : trimmed amount.toText = amount.toText := by
  rw [trimmed, Decimal.toText, String.toList_ofList, Decimal.trim_toChars]

/-- A conversion that leads to money has learned a quote, and the money is that quote rounded. -/
theorem leads_convert {amount source : String} {target : Option String} {scale : Nat}
    {money : Money}
    (leads : (convert amount source target scale).Leads learned (.done (.ok money))) :
    ∃ quote, learned (.quote source (trimmed amount) target) (.ok quote)
      ∧ money = roundQuote scale quote := by
  simp only [convert] at leads
  split at leads
  · cases leads.done_inj
  · split at leads
    · cases leads.done_inj
    · cases leads with
      | call heard rest =>
          rename_i answer
          cases answer with
          | error error => cases rest.done_inj
          | ok quote =>
              obtain rfl := Except.ok.inj rest.done_inj
              exact ⟨quote, heard, rfl⟩

/-- An amount without blanks around it is asked for as it is. -/
theorem leads_convert_of_trimmed {amount source : String} {target : Option String} {scale : Nat}
    {money : Money}
    (same : trimmed amount = amount)
    (leads : (convert amount source target scale).Leads learned (.done (.ok money))) :
    ∃ quote, learned (.quote source amount target) (.ok quote)
      ∧ money = roundQuote scale quote := by
  have found := leads_convert leads
  -- A rewrite would read the texts to see that the answers to both requests have one type.
  generalize trimmed amount = text at same found
  subst same
  exact found

/-- Storing a conversion does not change it. -/
theorem leads_convertAndStore {converter : Converter} {direction : RateDirection}
    {source amount : String} {scale : Nat} {money : Money}
    (leads : (converter.convertAndStore direction source amount scale).Leads learned
      (.done (.ok money))) :
    (convert amount source none scale).Leads learned (.done (.ok money)) := by
  unfold convertAndStore Dialogue.andThen at leads
  obtain ⟨first, converted, rest⟩ := Dialogue.Leads.of_bind leads
  cases first with
  | error error => cases rest.done_inj
  | ok found =>
      obtain ⟨_, _, stored⟩ := Dialogue.Leads.of_bind rest
      obtain rfl := Except.ok.inj stored.done_inj
      exact converted

/-- The local currency is the one in which the broker values a token. -/
theorem leads_localCurrency {converter : Converter} {money : Money}
    (leads : converter.localCurrency.Leads learned (.done (.ok money))) :
    ∃ quote, learned (.quote tokenCode "1.0" none) (.ok quote)
      ∧ money = roundQuote localCurrencyScale quote := by
  unfold localCurrency tokenToLocal at leads
  have one : trimmed "1.0" = "1.0" := by decide +kernel
  exact leads_convert_of_trimmed one (leads_convertAndStore leads)

end Converter

namespace Pipeline

variable {settings : PipelineSettings}

/-- The currency of the amount that a conversion is asked for. -/
def sourceCode (entry : AmountEntry) : String :=
  match entry.selected with
  | .fiat => entry.currency.code
  | .token => tokenCode

/-- The currency that a conversion is asked into, `none` for the local one. -/
def targetCode (entry : AmountEntry) : Option String :=
  match entry.selected with
  | .fiat => some tokenCode
  | .token => none

/-- The conversion of an entry that leads to money has learned the quote of its own amount. -/
theorem leads_conversionOf {entry : AmountEntry} {amount : Decimal} {money : Money}
    (leads : (conversionOf settings entry amount).Leads learned (.done (.ok money))) :
    ∃ quote, learned (.quote (sourceCode entry) amount.toText (targetCode entry)) (.ok quote)
      ∧ money = Converter.roundQuote settings.conversionScale quote := by
  cases side : entry.selected with
  | fiat =>
      have source : sourceCode entry = entry.currency.code := by rw [sourceCode, side]
      have target : targetCode entry = some tokenCode := by rw [targetCode, side]
      simp only [conversionOf, side, Converter.fiatToToken] at leads
      rw [source, target]
      exact Converter.leads_convert_of_trimmed (Converter.trimmed_toText amount) leads
  | token =>
      have source : sourceCode entry = tokenCode := by rw [sourceCode, side]
      have target : targetCode entry = none := by rw [targetCode, side]
      simp only [conversionOf, side, Converter.tokenToLocal] at leads
      rw [source, target]
      exact Converter.leads_convert_of_trimmed (Converter.trimmed_toText amount)
        (Converter.leads_convertAndStore leads)

/-- A bonus that was led to was forecast for the floored value of a quote. -/
theorem leads_bonusOf {currency : String} {fiat : Decimal} {bonus : BonusForecast}
    (leads : (bonusOf settings currency fiat).Leads learned (.done (some bonus))) :
    ∃ quote, learned (.quote currency fiat.toText (some tokenCode)) (.ok quote)
      ∧ learned (.forecast settings.package (quote.value.floorToScale settings.bonusScale))
          (.ok bonus) := by
  unfold bonusOf at leads
  obtain ⟨result, converted, rest⟩ := Dialogue.Leads.of_bind leads
  cases result with
  | error error => cases rest.done_inj
  | ok tokens =>
      unfold Converter.fiatToToken at converted
      obtain ⟨quote, heard, rfl⟩ :=
        Converter.leads_convert_of_trimmed (Converter.trimmed_toText fiat) converted
      refine ⟨quote, heard, ?_⟩
      cases rest with
      | call heardBonus rest =>
          rename_i answer
          cases answer with
          | error error => cases rest.done_inj
          | ok forecast =>
              obtain rfl := Option.some.inj rest.done_inj
              exact heardBonus

/-- Limits that were led to were answered for that currency. -/
theorem leads_limitsOf {currency : String} {limits : TopUpLimits}
    (leads : (limitsOf currency).Leads learned (.done (some limits))) :
    learned (.limits currency) (.ok limits) := by
  cases leads with
  | call heard rest =>
      rename_i answer
      cases answer with
      | error error => cases rest.done_inj
      | ok found =>
          obtain rfl := Option.some.inj rest.done_inj
          exact heard

end Pipeline

end WalletTopUp
