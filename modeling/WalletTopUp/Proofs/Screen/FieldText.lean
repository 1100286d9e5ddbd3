import WalletTopUp.Proofs.Amount.Text
import WalletTopUp.Screen.State

/-!
# The text of the amount field

The text of the amount field always stands for the amount of the selected side: an edit takes over
both, and a switch writes the text of the amount that it selects (`AmountEntry.ShowsSource`).  The
one exception would be a derived amount of zero that is not held as zero, which `conversionSettled`
would have to bring (`ScreenAction.SettlesProperly`).
-/

namespace WalletTopUp

/-- What is taken over as derived is held as zero if it is zero. -/
def ScreenAction.SettlesProperly (action : ScreenAction) : Prop :=
  ∀ derived, action = .conversionSettled derived → derived.IsProper

namespace AmountEntry

variable {entry : AmountEntry}

/-- The text of the amount field stands for the amount of the selected side. -/
structure ShowsSource (entry : AmountEntry) : Prop where
  proper : ∀ side, (entry.side side).IsProper
  reads : AmountValue.ofText? entry.rawText = some entry.source

/-- A typed text stands for what it was read as. -/
theorem showsSource_edited {text : String} {value : AmountValue}
    (typed : AmountValue.ofText? text = some value) :
    ShowsSource { (entry.withSide entry.selected value).withSide entry.selected.other .unknown with
      rawText := text } := by
  have typedProper := AmountValue.isProper_of_ofText? typed
  have unknownProper : AmountValue.unknown.IsProper := fun _ same => by cases same
  obtain ⟨_, selected, fiat, token, currency⟩ := entry
  cases selected with
  | fiat => exact ⟨fun | .fiat => typedProper | .token => unknownProper, typed⟩
  | token => exact ⟨fun | .fiat => unknownProper | .token => typedProper, typed⟩

/-- What is derived leaves the selected side as it is. -/
theorem ShowsSource.settled {derived : AmountValue}
    (shown : entry.ShowsSource)
    (proper : derived.IsProper) :
    (entry.withSide entry.selected.other derived).ShowsSource := by
  obtain ⟨text, selected, fiat, token, currency⟩ := entry
  cases selected with
  | fiat => exact ⟨fun | .fiat => shown.proper .fiat | .token => proper, shown.reads⟩
  | token => exact ⟨fun | .fiat => proper | .token => shown.proper .token, shown.reads⟩

/-- A switch writes the text of the amount that it selects. -/
theorem ShowsSource.switched (shown : entry.ShowsSource) : entry.switched.ShowsSource where
  proper := shown.proper
  reads := AmountValue.ofText?_fieldText (shown.proper entry.selected.other)

end AmountEntry

namespace ScreenState

variable {state : ScreenState}

/-- **No action lets the text of the amount field stand for another amount.** -/
theorem showsSource_next {action : ScreenAction}
    (shown : state.entry.ShowsSource)
    (proper : action.SettlesProperly) : (state.next action).entry.ShowsSource := by
  cases action with
  | amountEdited text =>
      simp only [next]
      split
      · exact shown
      · next value typed => exact AmountEntry.showsSource_edited typed
  | conversionSettled derived => exact shown.settled (proper derived rfl)
  | currencySwitched => exact shown.switched
  | setupLoaded _ _ => exact ⟨shown.proper, shown.reads⟩
  | limitsLoaded _ | boundsValidated _ | bonusUpdated _ | methodSelected _ => exact shown

theorem showsSource_start : ({} : ScreenState).entry.ShowsSource where
  proper side _ same := by cases side <;> cases same
  reads := rfl

theorem showsSource_foldl {actions : List ScreenAction}
    (shown : state.entry.ShowsSource)
    (proper : ∀ action ∈ actions, action.SettlesProperly) :
    (actions.foldl next state).entry.ShowsSource := by
  induction actions generalizing state with
  | nil => exact shown
  | cons action actions ih =>
      obtain ⟨first, others⟩ := List.forall_mem_cons.mp proper
      exact ih (showsSource_next shown first) others

/-- An edit that is accepted puts what it stands for on the selected side. -/
theorem source_next_amountEdited {text : String} {value : AmountValue}
    (typed : AmountValue.ofText? text = some value) :
    (state.next (.amountEdited text)).entry.source = value := by
  simp only [next, typed]
  cases selected : state.entry.selected with
  | fiat => simp only [AmountEntry.source, AmountEntry.withSide, selected, Side.other]; rfl
  | token => simp only [AmountEntry.source, AmountEntry.withSide, selected, Side.other]; rfl

end ScreenState

end WalletTopUp
