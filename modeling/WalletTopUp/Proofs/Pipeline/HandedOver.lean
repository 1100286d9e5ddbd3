import WalletTopUp.Proofs.Decimal.Normal
import WalletTopUp.Proofs.Pipeline.ConversionCalls
import WalletTopUp.Proofs.Pipeline.Forecasts

/-!
# Amounts that are handed over

The pipeline hands an amount to a conversion in two places: a positive amount on the selected side
when a quiet period has ended, and a positive fiat amount when a bonus is asked for.  The text of
such an amount passes every check of the conversion (`Converter.accepts_toText`), so a conversion
ends as the broker says (`Pipeline.ConversionOutcome`), and so does a forecast up to what the bonus
programme says (`Pipeline.ForecastOutcome`).
-/

namespace WalletTopUp

variable {learned : (request : Request) → request.Answer → Prop}

/-! ## The checks of a conversion -/

namespace Converter

/-- The checks of a conversion find nothing wrong with a text and a scale, and the text stands for
an amount. -/
structure Accepts (text : String) (amount : Decimal) (scale : Nat) : Prop where
  solid : trimmed text = text
  nonNegative : Amount.isNonNegative text = true
  reads : Decimal.ofText? text = some amount
  places : scale ≤ Decimal.maxScale

/-- The text of a positive amount passes the checks. -/
theorem accepts_toText {amount : Decimal} {scale : Nat}
    (positive : amount.isPositive = true)
    (places : scale ≤ Decimal.maxScale) : Accepts amount.toText amount scale where
  solid := trimmed_toText amount
  nonNegative := Decimal.isNonNegative_toText positive
  reads := amount.ofText?_toText
  places := places

/-- An accepted amount is put to the broker. -/
theorem convert_of_accepts {text source : String} {target : Option String} {amount : Decimal}
    {scale : Nat}
    (accepts : Accepts text amount scale) :
    convert text source target scale = .call (.quote source text target) (answered scale) := by
  rw [convert_eq accepts.solid, accepts.nonNegative, if_neg (by simp),
    if_neg (Nat.not_lt.mpr accepts.places)]

/-- What an accepted amount was converted into is stored under this amount. -/
theorem store_of_accepts {converter : Converter} {direction : RateDirection} {text : String}
    {amount : Decimal} {scale : Nat} {money : Money}
    (stores : converter.stores = true)
    (accepts : Accepts text amount scale) :
    converter.store direction text money
      = .call (.saveRate ⟨direction, amount.normalize⟩ money) fun _ => .done () := by
  have key : rateKey direction text = .ok ⟨direction, amount.normalize⟩ := by
    simp only [rateKey, accepts.solid, accepts.nonNegative, accepts.reads, Bool.not_true,
      Bool.false_eq_true, if_false]
  simp only [store, stores, key, Bool.not_true, Bool.false_eq_true, if_false]

end Converter

namespace Pipeline

variable {settings : PipelineSettings} {pipeline next : Pipeline} {past : History}

/-! ## How a conversion ends -/

/-- How a conversion ends with what has been learned: as the broker said.  What tokens were
converted into has been handed to the store under the amount of these tokens. -/
inductive ConversionOutcome (settings : PipelineSettings)
    (learned : (request : Request) → request.Answer → Prop) (entry : AmountEntry)
    (amount : Decimal) : ConversionResult → Prop where
  | failed {error : ServiceError}
      (heard : learned (.quote (sourceCode entry) amount.toText (targetCode entry))
        (.error error)) :
      ConversionOutcome settings learned entry amount (.error (.service error))
  | converted {quote : Quote}
      (heard : learned (.quote (sourceCode entry) amount.toText (targetCode entry)) (.ok quote))
      (stored : entry.selected = .token → ∃ answer,
        learned (.saveRate ⟨.appcToFiat, amount.normalize⟩
          (Converter.roundQuote settings.conversionScale quote)) answer) :
      ConversionOutcome settings learned entry amount
        (.ok (Converter.roundQuote settings.conversionScale quote))

/-- A conversion of tokens that succeeds ends once its result has been stored. -/
theorem leads_afterQuote_of_token {entry : AmountEntry} {amount : Decimal} {quote : Quote}
    {result : ConversionResult}
    (tokens : entry.selected = .token)
    (stores : settings.converter.stores = true)
    (accepts : Converter.Accepts amount.toText amount settings.conversionScale)
    (leads : (afterQuote settings entry amount (.ok quote)).Leads learned (.done result)) :
    result = .ok (Converter.roundQuote settings.conversionScale quote)
      ∧ ∃ answer, learned (.saveRate ⟨.appcToFiat, amount.normalize⟩
          (Converter.roundQuote settings.conversionScale quote)) answer := by
  simp only [afterQuote, tokens, Converter.answered, Dialogue.andThen, Dialogue.bind_done,
    Converter.store_of_accepts stores accepts, Dialogue.bind_call] at leads
  cases leads with
  | call heard rest => exact ⟨rest.done_inj.symm, _, heard⟩

/-- The conversion of an accepted amount ends as the broker says. -/
theorem conversionOutcome_of_leads {entry : AmountEntry} {amount : Decimal}
    {result : ConversionResult}
    (positive : amount.isPositive = true)
    (places : settings.conversionScale ≤ Decimal.maxScale)
    (stores : settings.converter.stores = true)
    (leads : (conversionOf settings entry amount).Leads learned (.done result)) :
    ConversionOutcome settings learned entry amount result := by
  have accepts := Converter.accepts_toText positive places
  rw [conversionOf_eq_call positive places] at leads
  cases leads with
  | @call _ _ answer _ heard rest =>
      cases answer with
      | error error =>
          have ended : result = .error (.service error) := by
            cases side : entry.selected <;>
              · simp only [afterQuote, side] at rest
                exact rest.done_inj.symm
          exact ended ▸ .failed heard
      | ok quote =>
          cases side : entry.selected with
          | fiat =>
              have after := rest
              simp only [afterQuote, side] at after
              obtain rfl := after.done_inj
              exact .converted heard fun tokens => by cases side.symm.trans tokens
          | token =>
              obtain ⟨rfl, stored⟩ := leads_afterQuote_of_token side stores accepts rest
              exact .converted heard fun _ => stored

/-! ## How a forecast ends -/

/-- How a forecast ends with what has been learned: without a bonus only if the broker or the bonus
programme has failed. -/
inductive ForecastOutcome (settings : PipelineSettings)
    (learned : (request : Request) → request.Answer → Prop) (currency : String) (fiat : Decimal) :
    Option BonusForecast → Prop where
  | unconverted {error : ServiceError}
      (heard : learned (.quote currency fiat.toText (some tokenCode)) (.error error)) :
      ForecastOutcome settings learned currency fiat none
  | unanswered {quote : Quote} {error : ServiceError}
      (heard : learned (.quote currency fiat.toText (some tokenCode)) (.ok quote))
      (heardBonus : learned (.forecast settings.package
        (quote.value.floorToScale settings.bonusScale)) (.error error)) :
      ForecastOutcome settings learned currency fiat none
  | answered {quote : Quote} {bonus : BonusForecast}
      (heard : learned (.quote currency fiat.toText (some tokenCode)) (.ok quote))
      (heardBonus : learned (.forecast settings.package
        (quote.value.floorToScale settings.bonusScale)) (.ok bonus)) :
      ForecastOutcome settings learned currency fiat (some bonus)

theorem forecastOutcome_of_leads {currency : String} {fiat : Decimal}
    {bonus : Option BonusForecast}
    (positive : fiat.isPositive = true)
    (places : settings.bonusScale ≤ Decimal.maxScale)
    (leads : (bonusOf settings currency fiat).Leads learned (.done bonus)) :
    ForecastOutcome settings learned currency fiat bonus := by
  rw [bonusOf, Converter.fiatToToken,
    Converter.convert_of_accepts (Converter.accepts_toText positive places)] at leads
  cases leads with
  | @call _ _ answer _ heard rest =>
      cases answer with
      | error error =>
          obtain rfl := rest.done_inj
          exact .unconverted heard
      | ok quote =>
          cases rest with
          | @call _ _ answer _ heardBonus rest =>
              cases answer with
              | error error =>
                  obtain rfl := rest.done_inj
                  exact .unanswered heard heardBonus
              | ok bonus =>
                  obtain rfl := rest.done_inj
                  exact .answered heard heardBonus

/-! ## Every conversion in flight -/

/-- The answers that the conversion of an amount has had since it began. -/
abbrev ConversionLearned (entry : AmountEntry) (amount : Decimal) (past : History) :
    (request : Request) → request.Answer → Prop :=
  LearnedSince (fun _ => True) (BeginsConversion entry amount) .conversion past

/-- An exchange is the conversion of an amount that has been handed over. -/
def Converts (settings : PipelineSettings) (past : History)
    (exchange : Exchange ConversionResult) : Prop :=
  ∃ entry amount, Since (fun _ => True) (fun moment _ => BeginsConversion entry amount moment) past
    ∧ amount.isPositive = true
    ∧ exchange.Follows
        (AskedSince (fun _ => True) (BeginsConversion entry amount) .conversion past)
        (ConversionLearned entry amount past) (conversionOf settings entry amount)

theorem Converts.later {exchange : Exchange ConversionResult} {moment : Moment Pipeline Turn}
    (converts : Converts settings past exchange) :
    Converts settings (moment :: past) exchange := by
  obtain ⟨entry, amount, since, positive, follows⟩ := converts
  exact ⟨entry, amount, .later trivial since, positive, follows_later follows trivial⟩

/-- A conversion is put in flight by being handed a positive amount of the selected side. -/
theorem converts_perform {duty : Duty} {rest : List Duty} {now : Instant} {sink : Sink TaskName}
    {work : Ticketed ConversionResult}
    (converts : ∀ work, pipeline.conversions.current = some work →
      Converts settings past work.exchange)
    (head : pipeline.duties = duty :: rest)
    (current : (({ pipeline with duties := rest } : Pipeline).perform settings now
      duty).conversions.current = some work) :
    Converts settings (⟨pipeline, .own now sink⟩ :: past) work.exchange := by
  by_cases cancels : duty = .cancelConversion
  · subst cancels
    cases current
  by_cases starts : duty = .convert
  · subst starts
    cases source : pipeline.state.entry.source.positive? with
    | none =>
        have kept : (({ pipeline with duties := rest } : Pipeline).perform settings now
            .convert).conversions = pipeline.conversions :=
          conversions_convert_of_nothing now source
        rw [kept] at current
        exact (converts work current).later
    | some amount =>
        have starts : ({ pipeline with duties := rest } : Pipeline).perform settings now .convert
            = ({ pipeline with duties := rest } : Pipeline).startConversion settings amount :=
          perform_convert_of_positive now source
        rw [starts] at current
        obtain rfl := Option.some.inj current
        have positive := AmountValue.isPositive_of_positive? source
        exact ⟨pipeline.state.entry, amount,
          .now ⟨⟨⟨now, sink, rfl⟩, rest, head⟩, rfl, AmountValue.eq_of_positive? source, positive⟩,
          positive, Exchange.Follows.ready _⟩
  · rw [(performed settings now pipeline duty rest).conversions cancels starts] at current
    exact (converts work current).later

/-- **Every conversion in flight is one of a positive amount that was handed over.** -/
theorem converts_of_reaches {work : Ticketed ConversionResult}
    (reached : Reaches (Pipeline.turn settings) (start settings) past pipeline)
    (current : pipeline.conversions.current = some work) :
    Converts settings past work.exchange := by
  induction reached generalizing work with
  | start => cases current
  | step _ moved ih =>
      rcases step_of_turn moved with ⟨now, sink, rfl, _, step⟩ | step
      · cases step with
        | stops _ _ => cases current
        | performs head _ => exact converts_perform (fun _ => ih) head current
        | _ => exact (ih current).later
      · cases step with
        | askConversion before asks =>
            obtain rfl := Option.some.inj current
            obtain ⟨entry, amount, since, positive, follows⟩ := ih before
            exact ⟨entry, amount, .later trivial since, positive,
              follows_ask follows since trivial asks (ask?_conversion before)⟩
        | endConversion _ _ => cases current
        | hear =>
            obtain ⟨work, before, rfl⟩ := Option.map_eq_some_iff.mp current
            obtain ⟨entry, amount, since, positive, follows⟩ := ih before
            exact ⟨entry, amount, .later trivial since, positive, follows_hear follows trivial⟩
        | _ => exact (ih current).later

end Pipeline

end WalletTopUp
