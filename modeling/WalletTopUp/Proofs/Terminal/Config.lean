import WalletTopUp.Proofs.Pipeline.HandedOver
import WalletTopUp.Proofs.Pipeline.SubmitControl
import WalletTopUp.Terminal.Config

/-!
# Accepted configurations

A configuration that is accepted asks for no more decimal places than a decimal has
(`Config.isSound_of_ofText`), and its screens store what they convert.  So the pipeline of such a
screen never hands an amount to a conversion that the conversion itself refuses, and a conversion
fails only if the broker does (`PipelineRun.checks_never_fail`).
-/

namespace WalletTopUp

namespace Config

variable {content : String} {wallet : Option String} {config : Config}

/-- Everything that is checked of a configuration. -/
structure IsSound (config : Config) : Prop where
  conversionPlaces : config.conversionScale ≤ Decimal.maxScale
  bonusPlaces : config.bonusScale ≤ Decimal.maxScale
  period : 0 < config.interval
  methods : config.supported ≠ []
  wallet : ∀ address, config.wallet = some address → Text.trim address.toList ≠ []

/-- No fault is found in a configuration exactly if it is sound. -/
theorem fault?_eq_none_iff : config.fault? = none ↔ config.IsSound := by
  unfold fault?
  constructor
  · intro faultless
    split at faultless
    · cases faultless
    split at faultless
    · cases faultless
    split at faultless
    · cases faultless
    split at faultless
    · cases faultless
    split at faultless
    · cases faultless
    next conversion bonus interval methods blank =>
      refine ⟨Nat.not_lt.mp conversion, Nat.not_lt.mp bonus, Nat.pos_of_ne_zero interval,
        fun empty => methods (List.isEmpty_iff.mpr empty), fun address given empty => blank ?_⟩
      rw [given, Option.any_some, empty, List.isEmpty_nil]
  · intro sound
    have filled :
        (config.wallet.any fun address => (Text.trim address.toList).isEmpty) = false := by
      cases given : config.wallet with
      | none => rfl
      | some address => exact List.isEmpty_eq_false_iff.mpr (sound.wallet address given)
    rw [if_neg (Nat.not_lt.mpr sound.conversionPlaces), if_neg (Nat.not_lt.mpr sound.bonusPlaces),
      if_neg (Nat.ne_of_gt sound.period), if_neg (by simp [sound.methods]),
      if_neg (by simp [filled])]

/-- An accepted configuration is sound. -/
theorem isSound_of_ofText (accepted : ofText content wallet = .ok config) : config.IsSound := by
  unfold ofText at accepted
  split at accepted
  · cases accepted
  · dsimp only at accepted
    split at accepted
    · cases accepted
    · next faultless =>
        obtain rfl := Except.ok.inj accepted
        exact fault?_eq_none_iff.mp faultless

end Config

namespace Pipeline

/-- The conversion in flight ends with a result. -/
def EndsConversion (result : ConversionResult) (moment : Moment Pipeline Turn) : Prop :=
  moment.event = .finish .conversion ∧ ∃ work, moment.before.conversions.current = some work
    ∧ work.exchange.result? = some result

/-- The forecast in flight ends with a bonus, or without one. -/
def EndsForecast (bonus : Option BonusForecast) (moment : Moment Pipeline Turn) : Prop :=
  moment.event = .finish .bonus ∧ ∃ work, moment.before.bonuses.current = some work
    ∧ work.exchange.result? = some bonus

end Pipeline

namespace PipelineRun

open Pipeline

variable {content : String} {wallet : Option String} {config : Config} {package : String}
  {past : List (Moment PipelineRun Move)} {run : PipelineRun}

/-- **With an accepted configuration the pipeline never trips over its own checks.**  For every
content of the configuration file and every wallet with which it is accepted, and in every run of a
pipeline with that configuration:

* Whatever conversion is in flight is that of an amount which the pipeline has handed over, and the
  text and the scale that came with it pass all checks: nothing is trimmed off the text, it has the
  form that the broker takes, and it is read back as the amount itself.
* The same holds of the fiat amount of every forecast in flight.
* A conversion that has ended with an error has ended with an error of the broker.  One that has
  succeeded gives what the broker has answered for this amount, and if tokens have been converted it
  has been handed to the store under this amount before.
* A forecast that has ended without a bonus has done so because the broker or the bonus programme
  has failed.

An amount is stored without trailing zeros, which makes it no other number. -/
theorem checks_never_fail
    (accepted : Config.ofText content wallet = .ok config)
    (reached : Reaches (PipelineRun.move (config.settings package).pipeline)
      (start (config.settings package).pipeline) past run) :
    (∀ work, run.pipeline.conversions.current = some work →
        ∃ entry amount,
          Since (fun _ => True) (fun moment _ => BeginsConversion entry amount moment) (turns past)
            ∧ Converter.Accepts amount.toText amount config.conversionScale
            ∧ work.exchange.Follows
                (AskedSince (fun _ => True) (BeginsConversion entry amount) .conversion
                  (turns past))
                (ConversionLearned entry amount (turns past))
                (conversionOf (config.settings package).pipeline entry amount))
      ∧ (∀ work, run.pipeline.bonuses.current = some work →
        ∃ currency fiat,
          Since (HoldsFiat fiat) (fun moment _ => BeginsForecast currency fiat moment) (turns past)
            ∧ Converter.Accepts fiat.toText fiat config.bonusScale
            ∧ work.exchange.Follows
                (AskedSince (HoldsFiat fiat) (BeginsForecast currency fiat) .bonus (turns past))
                (LearnedSince (HoldsFiat fiat) (BeginsForecast currency fiat) .bonus (turns past))
                (bonusOf (config.settings package).pipeline currency fiat))
      ∧ (∀ moment earlier result, moment :: earlier <:+ turns past →
          EndsConversion result moment →
          ∃ entry amount, ConversionOutcome (config.settings package).pipeline
            (ConversionLearned entry amount earlier) entry amount result)
      ∧ (∀ moment earlier bonus, moment :: earlier <:+ turns past →
          EndsForecast bonus moment →
          ∃ currency fiat, ForecastOutcome (config.settings package).pipeline
            (LearnedSince (HoldsFiat fiat) (BeginsForecast currency fiat) .bonus earlier) currency
            fiat bonus)
      ∧ ∀ amount : Decimal, amount.normalize.sameNumber amount = true := by
  have sound := Config.isSound_of_ofText accepted
  have reachedTurns := reaches_turns reached
  refine ⟨fun work current => ?_, fun work current => ?_,
    fun moment earlier result suffix ends => ?_, fun moment earlier bonus suffix ends => ?_,
    Decimal.sameNumber_normalize⟩
  · obtain ⟨entry, amount, since, positive, follows⟩ := converts_of_reaches reachedTurns current
    exact ⟨entry, amount, since, Converter.accepts_toText positive sound.conversionPlaces, follows⟩
  · obtain ⟨currency, fiat, _, positive, since, follows⟩ :=
      (rewarded_of_reaches reachedTurns).underway work current
    exact ⟨currency, fiat, since, Converter.accepts_toText positive sound.bonusPlaces, follows⟩
  · obtain ⟨_, work, current, ended⟩ := ends
    obtain ⟨entry, amount, _, positive, follows⟩ :=
      converts_of_reaches (reachedTurns.of_suffix suffix) current
    exact ⟨entry, amount, conversionOutcome_of_leads positive sound.conversionPlaces rfl
      (follows.result ended)⟩
  · obtain ⟨_, work, current, ended⟩ := ends
    obtain ⟨currency, fiat, _, positive, _, follows⟩ :=
      (rewarded_of_reaches (reachedTurns.of_suffix suffix)).underway work current
    exact ⟨currency, fiat, forecastOutcome_of_leads positive sound.bonusPlaces
      (follows.result ended)⟩

/-- A configuration with nothing but what has to be there. -/
def Sample.leastContent : String :=
  "[endpoints]\nbroker = 'http://b'\npayment = 'http://p'\npartner = 'http://b'\n" ++
    "gamification = 'http://g'\n[payment]\nreturn_url = 'http://r'\n"

/-- How a screen with this configuration works. -/
def Sample.storing : PipelineSettings := { converter := ⟨true⟩ }

theorem Sample.exists_config : ∃ config, Config.ofText leastContent none = .ok config
    ∧ (config.settings "").pipeline = storing := by
  have found : ((Config.ofText leastContent none).toOption.map fun config =>
      (config.settings "").pipeline) = some storing := by decide +kernel
  cases accepted : Config.ofText leastContent none with
  | error _ =>
      rw [accepted] at found
      cases found
  | ok config =>
      rw [accepted] at found
      exact ⟨config, rfl, Option.some.inj found⟩

/-- The sides are switched, `10.50` tokens are typed, and their conversion and the storing of its
result are answered. -/
def Sample.tokenMoves : List Move :=
  [Move.send .switchCurrency] ++ own 7 ++ [Move.send (.edit "10.50")] ++ own 6
    ++ [Move.advance 700] ++ own 2
    ++ [Move.step .conversion, .answer 0 server, .step .conversion, .answer 1 server]

/-- The run that these moves make. -/
def Sample.tokenRun : PipelineRun :=
  ((start storing).moves storing tokenMoves).getD (start storing)

theorem Sample.moves_tokenRun : (start storing).moves storing tokenMoves = some tokenRun := by rfl

theorem checks_never_fail_of_tokens :
    ∃ config past run moment earlier entry amount,
      Config.ofText Sample.leastContent none = .ok config
        ∧ Reaches (PipelineRun.move (config.settings "").pipeline)
            (start (config.settings "").pipeline) past run
        ∧ moment :: earlier <:+ turns past
        ∧ EndsConversion (.ok ⟨(Decimal.ofParts? false 20000 2).getD .zero, "EUR", ""⟩) moment
        ∧ ConversionOutcome (config.settings "").pipeline (ConversionLearned entry amount earlier)
            entry amount (.ok ⟨(Decimal.ofParts? false 20000 2).getD .zero, "EUR", ""⟩) := by
  obtain ⟨config, accepted, same⟩ := Sample.exists_config
  obtain ⟨past, reached, _⟩ := reaches_of_moves Sample.moves_tokenRun
  have moved : Sample.tokenRun.move Sample.storing (.step .conversion) ≠ none := fun stuck => by
    cases stuck
  obtain ⟨run, moved⟩ := Option.ne_none_iff_exists'.mp moved
  have ended : EndsConversion (.ok ⟨(Decimal.ofParts? false 20000 2).getD .zero, "EUR", ""⟩)
      ⟨Sample.tokenRun.pipeline, .finish .conversion⟩ := ⟨rfl, _, rfl, rfl⟩
  have reachedEnd := same ▸ reached.step moved
  obtain ⟨entry, amount, outcome⟩ := (checks_never_fail accepted reachedEnd).2.2.1
    ⟨Sample.tokenRun.pipeline, .finish .conversion⟩ (turns past) _ (List.suffix_refl _) ended
  exact ⟨config, _, run, _, turns past, entry, amount, accepted, reachedEnd, List.suffix_refl _,
    ended, outcome⟩

end PipelineRun

end WalletTopUp
