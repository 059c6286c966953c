import InfJupInterface.Amm.Defs
import InfJupInterface.Inf1Std.Reference
import InfJupInterface.Solana.PubkeyText

/-!
# The texts of errors

The errors of `inf1_std` carry public keys as byte arrays.  `FmtErr` is a wrapper around them whose
text shows the keys in base 58; what has no key in it is left to the text of the error itself.

`about` is the key an error is about, however deep in the enumerations of the crates below it stands.
The text of such an error is a word and the key (`ShowsKey`), so that the key can be read back from it
(`readKey_text`).
-/

namespace InfJup

/-- `FmtErr`: an error whose text shows its public keys. -/
structure FmtErr (ε : Type) where
  err : ε

/-- The text of a word and a key. -/
def keyed (word : String) (pk : Pubkey) : String := word ++ ": " ++ toText pk

/-! ### The errors of the crates below -/

/-- The types of error data that no text of the AMM looks into. -/
structure ErrTypes where
  /-- `Inf1CtlErr`. -/
  Inf1CtlErr : Type
  /-- The error of a price of the flat fee program. -/
  FlatFeePricingErr : Type
  /-- The error of a price of the flat slab program. -/
  FlatSlabPricingErr : Type
  /-- `SvcCalcAgErr`. -/
  SvcCalcAgErr : Type
  /-- The data of `FeeNanosOutOfRange`. -/
  FeeNanosOutOfRange : Type
  /-- The data of `OverCap`. -/
  OverCap : Type
  /-- The data of `ThresholdNanosOutOfRange`. -/
  ThresholdNanosOutOfRange : Type
  /-- The data of `WsolBalanceGtPoolSolValue`. -/
  WsolBalanceGtPoolSolValue : Type

namespace Err

/-- `PricingAg`, with one case for each pricing program. -/
inductive PricingAg (α β γ : Type) where
  | flatFee (e : α)
  | flatSlab (e : β)
  | reserveV2 (e : γ)

/-- `SvcAg`, with one case for each kind of sol value calculator.  The three kinds of SPL
calculators have one type of errors, and wSOL has none. -/
inductive SvcAg (α β γ δ ε : Type) where
  | inf (e : α)
  | infExt (e : β)
  | lido (e : γ)
  | marinade (e : δ)
  | sanctumSpl (e : ε)
  | sanctumSplMulti (e : ε)
  | spl (e : ε)
  | wsol (infallible : Empty)

/-- An update error of a program that knows no other. -/
inductive AccDeser where
  | accDeser (pk : Pubkey)

/-- `FlatFeePricingUpdateErr`. -/
abbrev FlatFeePricingUpdateErr : Type := AccDeser

/-- `FlatSlabPricingUpdateErr`. -/
abbrev FlatSlabPricingUpdateErr : Type := AccDeser

/-- `ReserveV2PricingUpdateErr`. -/
abbrev ReserveV2PricingUpdateErr : Type := AccDeser

/-- `UpdatePpErr`. -/
abbrev UpdatePpErr : Type :=
  PricingAg FlatFeePricingUpdateErr FlatSlabPricingUpdateErr ReserveV2PricingUpdateErr

/-- `InfUpdateErr`. -/
abbrev InfUpdateErr : Type := AccDeser

/-- `InfExtUpdateErr`. -/
inductive InfExtUpdateErr (E : ErrTypes) where
  | accDeser (pk : Pubkey)
  | ctl (e : E.Inf1CtlErr)

/-- `LidoUpdateErr`. -/
abbrev LidoUpdateErr : Type := AccDeser

/-- `MarinadeUpdateErr`. -/
abbrev MarinadeUpdateErr : Type := AccDeser

/-- `SplUpdateErr`. -/
abbrev SplUpdateErr : Type := AccDeser

/-- `UpdateSvcErr`. -/
abbrev UpdateSvcErr (E : ErrTypes) : Type :=
  SvcAg InfUpdateErr (InfExtUpdateErr E) LidoUpdateErr MarinadeUpdateErr SplUpdateErr

/-- `FlatFeePricingColErr`. -/
inductive FlatFeePricingColErr where
  | feeAccountMissing (mint : Pubkey)
  | programStateMissing

/-- `MintNotFoundErr`, of the flat slab and of the reserve program. -/
structure MintNotFoundErr where
  mint : Pubkey

/-- `FlatSlabPricingColErr`. -/
inductive FlatSlabPricingColErr where
  | mintNotFound (e : MintNotFoundErr)

/-- `ReserveV2ProgramErr`. -/
inductive ReserveV2ProgramErr (E : ErrTypes) where
  | mintNotFound (e : MintNotFoundErr)
  | sameMint (mint : Pubkey)
  | cantRemoveRequiredMint
  | feeNanosOutOfRange (e : E.FeeNanosOutOfRange)
  | mathOverflow
  | negativeBandDelta
  | overCap (e : E.OverCap)
  | thresholdNanosOutOfRange (e : E.ThresholdNanosOutOfRange)
  | unsupportedDeprecatedInstruction
  | wsolBalanceGtPoolSolValue (e : E.WsolBalanceGtPoolSolValue)
  | zeroRetainedValue
  | zeroPoolSolValue

/-- `ReserveV2PricingColErr`. -/
inductive ReserveV2PricingColErr (E : ErrTypes) where
  | program (e : ReserveV2ProgramErr E)
  | ctl (e : E.Inf1CtlErr)
  | notUpdated

/-- `ReserveV2Swap`. -/
inductive ReserveV2Swap (α β : Type) where
  | flat (e : α)
  | rangeOut (e : β)

/-- `PricingProgAgErr`. -/
abbrev PricingProgAgErr (E : ErrTypes) : Type :=
  PricingAg FlatFeePricingColErr FlatSlabPricingColErr (ReserveV2PricingColErr E)

/-- `PricingAgErr`. -/
abbrev PricingAgErr (E : ErrTypes) : Type :=
  PricingAg E.FlatFeePricingErr E.FlatSlabPricingErr
    (ReserveV2Swap (ReserveV2ProgramErr E) (ReserveV2ProgramErr E))

/-- `NotEnoughLiquidityErr`. -/
structure NotEnoughLiquidityErr where
  required : UInt64
  available : UInt64

/-- `RebalanceQuoteErr<SvcCalcAgErr, SvcCalcAgErr>`. -/
inductive RebalanceQuoteErr (E : ErrTypes) where
  | notEnoughLiquidity (e : NotEnoughLiquidityErr)
  | inpCalc (e : E.SvcCalcAgErr)
  | outCalc (e : E.SvcCalcAgErr)
  | overflow

/-- `QuoteErr<SvcCalcAgErr, SvcCalcAgErr, PricingAgErr>`. -/
inductive QuoteErr (E : ErrTypes) where
  | notEnoughLiquidity (e : NotEnoughLiquidityErr)
  | pricing (e : PricingAgErr E)
  | inpCalc (e : E.SvcCalcAgErr)
  | inpDisabled
  | outCalc (e : E.SvcCalcAgErr)
  | poolLoss
  | zeroValue

end Err

/-! ### The texts -/

section Texts

variable {E : ErrTypes} {α β γ δ ε : Type}

/-- A case for each pricing program. -/
instance fmtPricingAg [Display (FmtErr α)] [Display (FmtErr β)] [Display (FmtErr γ)] :
    Display (FmtErr (Err.PricingAg α β γ)) where
  toText
    | ⟨.flatFee e⟩ => toText (FmtErr.mk e)
    | ⟨.flatSlab e⟩ => toText (FmtErr.mk e)
    | ⟨.reserveV2 e⟩ => toText (FmtErr.mk e)

/-- A case for each kind of calculator. -/
instance fmtSvcAg [Display (FmtErr α)] [Display (FmtErr β)] [Display (FmtErr γ)] [Display (FmtErr δ)]
    [Display (FmtErr ε)] : Display (FmtErr (Err.SvcAg α β γ δ ε)) where
  toText
    | ⟨.inf e⟩ => toText (FmtErr.mk e)
    | ⟨.infExt e⟩ => toText (FmtErr.mk e)
    | ⟨.lido e⟩ => toText (FmtErr.mk e)
    | ⟨.marinade e⟩ => toText (FmtErr.mk e)
    | ⟨.sanctumSpl e⟩ | ⟨.sanctumSplMulti e⟩ | ⟨.spl e⟩ => toText (FmtErr.mk e)

instance fmtAccDeser : Display (FmtErr Err.AccDeser) where
  toText | ⟨.accDeser pk⟩ => keyed "AccDeser" pk

instance fmtInfExtUpdateErr [Display E.Inf1CtlErr] : Display (FmtErr (Err.InfExtUpdateErr E)) where
  toText
    | ⟨.accDeser pk⟩ => keyed "AccDeser" pk
    | ⟨.ctl e⟩ => toText e

instance fmtFlatFeePricingColErr [Display Err.FlatFeePricingColErr] :
    Display (FmtErr Err.FlatFeePricingColErr) where
  toText
    | ⟨.feeAccountMissing mint⟩ => keyed "FeeAccountMissing" mint
    | ⟨.programStateMissing⟩ => toText Err.FlatFeePricingColErr.programStateMissing

instance fmtFlatSlabPricingColErr : Display (FmtErr Err.FlatSlabPricingColErr) where
  toText | ⟨.mintNotFound e⟩ => keyed "MintNotFound" e.mint

instance fmtReserveV2ProgramErr [Display (Err.ReserveV2ProgramErr E)] :
    Display (FmtErr (Err.ReserveV2ProgramErr E)) where
  toText
    | ⟨.mintNotFound e⟩ => keyed "MintNotFound" e.mint
    | ⟨.sameMint mint⟩ => keyed "SameMint" mint
    | ⟨e⟩ => toText e

instance fmtReserveV2PricingColErr [Display E.Inf1CtlErr] [Display (Err.ReserveV2ProgramErr E)]
    [Display (Err.ReserveV2PricingColErr E)] : Display (FmtErr (Err.ReserveV2PricingColErr E)) where
  toText
    | ⟨.program e⟩ => toText (FmtErr.mk e)
    | ⟨.ctl e⟩ => toText e
    | ⟨.notUpdated⟩ => toText (Err.ReserveV2PricingColErr.notUpdated : Err.ReserveV2PricingColErr E)

instance fmtReserveV2Swap [Display (FmtErr α)] : Display (FmtErr (Err.ReserveV2Swap α α)) where
  toText | ⟨.flat e⟩ | ⟨.rangeOut e⟩ => toText (FmtErr.mk e)

/-- An error of a price.  Those of the flat fee and the flat slab program are displayed as they
are. -/
instance fmtPricingAgErr [Display E.FlatFeePricingErr] [Display E.FlatSlabPricingErr]
    [Display (Err.ReserveV2ProgramErr E)] : Display (FmtErr (Err.PricingAgErr E)) where
  toText
    | ⟨.flatFee e⟩ => toText e
    | ⟨.flatSlab e⟩ => toText e
    | ⟨.reserveV2 e⟩ => toText (FmtErr.mk e)

instance fmtNotEnoughLiquidityErr : Display (FmtErr Err.NotEnoughLiquidityErr) where
  toText e := "NotEnoughLiquidity. Required: " ++ toString e.err.required ++ ". Available: " ++
    toString e.err.available

instance fmtRebalanceQuoteErr [Display (Err.RebalanceQuoteErr E)] :
    Display (FmtErr (Err.RebalanceQuoteErr E)) where
  toText
    | ⟨.notEnoughLiquidity e⟩ => toText (FmtErr.mk e)
    | ⟨e⟩ => toText e

instance fmtQuoteErr [Display E.FlatFeePricingErr] [Display E.FlatSlabPricingErr]
    [Display (Err.ReserveV2ProgramErr E)] [Display (Err.QuoteErr E)] :
    Display (FmtErr (Err.QuoteErr E)) where
  toText
    | ⟨.notEnoughLiquidity e⟩ => toText (FmtErr.mk e)
    | ⟨.pricing e⟩ => toText (FmtErr.mk e)
    | ⟨e⟩ => toText e

end Texts

section InfErr

variable {T : Inf1Types} [Display (FmtErr T.PricingProgErr)] [Display (FmtErr T.RebalanceQuoteErr)]
  [Display (FmtErr T.SwapQuoteErr)] [Display (FmtErr T.UpdatePpErr)] [Display (FmtErr T.UpdateSvcErr)]
  [Display T.CtlErr] [Display (InfErr T)]

instance fmtInfErr : Display (FmtErr (InfErr T)) where
  toText
    | ⟨.accDeser pk⟩ => keyed "AccDeser" pk
    | ⟨.missingAcc pk⟩ => keyed "MissingAcc" pk
    | ⟨.missingReserves mint⟩ => keyed "MissingReserves" mint
    | ⟨.missingSplData mint⟩ => keyed "MissingSplData" mint
    | ⟨.missingSvcData mint⟩ => keyed "MissingSvcData" mint
    | ⟨.unknownPp ppProgId⟩ => keyed "UnknownPp" ppProgId
    | ⟨.unknownSvc svcProgId⟩ => keyed "UnknownSvc" svcProgId
    | ⟨.unsupportedMint mint⟩ => keyed "UnsupportedMint" mint
    | ⟨.pricingProg e⟩ => toText (FmtErr.mk e)
    | ⟨.rebalanceQuote e⟩ => toText (FmtErr.mk e)
    | ⟨.swapQuote e⟩ => toText (FmtErr.mk e)
    | ⟨.updatePp e⟩ => toText (FmtErr.mk e)
    | ⟨.updateSvc e⟩ => toText (FmtErr.mk e)
    | ⟨.ctl e⟩ => toText e
    | ⟨.noValidPda⟩ => toText (InfErr.noValidPda : InfErr T)

instance fmtUpdateErr : Display (FmtErr (UpdateErr (InfErr T))) where
  toText
    | ⟨.accMissing pk⟩ => keyed "MissingAcc" pk
    | ⟨.inner e⟩ => toText (FmtErr.mk e)

/-- An error that the AMM returns, or the message it panics with. -/
instance fmtAmmErr : Display (AmmErr T) where
  toText
    | .panic msg => msg
    | .unsupportedControllerProgram programId => keyed "Unsupported controller program" programId
    | .incorrectLstStateList => "Incorrect LST state list keyed_account"
    | .lstStatePackedListOfAccData => "LstStatePackedList::of_acc_data failed"
    | .inf e => toText (FmtErr.mk e)
    | .update e => toText (FmtErr.mk e)

end InfErr

/-- The types of the AMM with the errors of the crates below. -/
abbrev Inf1Types.withErrs (T : Inf1Types) (E : ErrTypes) : Inf1Types where
  VerPoolState := T.VerPoolState
  PoolStateV2 := T.PoolStateV2
  LstState := T.LstState
  Reserves := T.Reserves
  PricingAg := T.PricingAg
  SvcAg := T.SvcAg
  SwapIx := T.SwapIx
  SwapIxAccs := T.SwapIxAccs
  PricingProgErr := Err.PricingProgAgErr E
  RebalanceQuoteErr := Err.RebalanceQuoteErr E
  SwapQuoteErr := Err.QuoteErr E
  UpdatePpErr := Err.UpdatePpErr
  UpdateSvcErr := Err.UpdateSvcErr E
  CtlErr := E.Inf1CtlErr

/-! ### The key an error is about -/

/-- The key an error is about, if it has one in it, at whatever depth. -/
class About (ε : Type) where
  about : ε → Option Pubkey

export About (about)

/-- The key of a text: what comes after the first colon and the blank. -/
def readKey (text : String) : Option Pubkey :=
  Pubkey.fromStr (String.ofList ((text.toList.dropWhile (· ≠ ':')).drop 2))

/-- The key is read from the text of a word and a key. -/
theorem readKey_keyed {word : String} (h : ':' ∉ word.toList) (pk : Pubkey) :
    readKey (keyed word pk) = some pk := by
  have hword : ∀ c ∈ word.toList, (decide (c ≠ ':')) = true := by
    intro c hc
    exact decide_eq_true fun hcolon => h (hcolon ▸ hc)
  have hrest : (([':', ' '] ++ (toText pk).toList).dropWhile (· ≠ ':')).drop 2 = (toText pk).toList := by
    simp
  have hsep : (": " : String).toList = [':', ' '] := by decide
  rw [readKey, keyed, String.toList_append, String.toList_append, hsep, List.append_assoc,
    List.dropWhile_append_of_pos hword, hrest, String.ofList_toList, Pubkey.fromStr_toText]

/-- The text of an error that is about a key is a word and the key. -/
class ShowsKey (ε : Type) [Display ε] [About ε] : Prop where
  toText_of_about : ∀ {e : ε} {pk : Pubkey}, about e = some pk →
    ∃ word : String, ':' ∉ word.toList ∧ toText e = keyed word pk

/-- So the key is read from the text. -/
theorem readKey_of_about {ε : Type} [Display ε] [About ε] [ShowsKey ε] {e : ε} {pk : Pubkey}
    (h : about e = some pk) : readKey (toText e) = some pk := by
  obtain ⟨word, hword, htext⟩ := ShowsKey.toText_of_about h
  rw [htext, readKey_keyed hword]

section Keys

variable {E : ErrTypes} {α β γ δ ε : Type}

instance [About (FmtErr α)] [About (FmtErr β)] [About (FmtErr γ)] :
    About (FmtErr (Err.PricingAg α β γ)) where
  about
    | ⟨.flatFee e⟩ => about (FmtErr.mk e)
    | ⟨.flatSlab e⟩ => about (FmtErr.mk e)
    | ⟨.reserveV2 e⟩ => about (FmtErr.mk e)

instance [Display (FmtErr α)] [Display (FmtErr β)] [Display (FmtErr γ)] [About (FmtErr α)]
    [About (FmtErr β)] [About (FmtErr γ)] [ShowsKey (FmtErr α)] [ShowsKey (FmtErr β)]
    [ShowsKey (FmtErr γ)] : ShowsKey (FmtErr (Err.PricingAg α β γ)) where
  toText_of_about := by
    rintro ⟨e⟩ pk h
    cases e with
    | flatFee e => exact ShowsKey.toText_of_about (e := FmtErr.mk e) h
    | flatSlab e => exact ShowsKey.toText_of_about (e := FmtErr.mk e) h
    | reserveV2 e => exact ShowsKey.toText_of_about (e := FmtErr.mk e) h

instance [About (FmtErr α)] [About (FmtErr β)] [About (FmtErr γ)] [About (FmtErr δ)]
    [About (FmtErr ε)] : About (FmtErr (Err.SvcAg α β γ δ ε)) where
  about
    | ⟨.inf e⟩ => about (FmtErr.mk e)
    | ⟨.infExt e⟩ => about (FmtErr.mk e)
    | ⟨.lido e⟩ => about (FmtErr.mk e)
    | ⟨.marinade e⟩ => about (FmtErr.mk e)
    | ⟨.sanctumSpl e⟩ | ⟨.sanctumSplMulti e⟩ | ⟨.spl e⟩ => about (FmtErr.mk e)

instance [Display (FmtErr α)] [Display (FmtErr β)] [Display (FmtErr γ)] [Display (FmtErr δ)]
    [Display (FmtErr ε)] [About (FmtErr α)] [About (FmtErr β)] [About (FmtErr γ)] [About (FmtErr δ)]
    [About (FmtErr ε)] [ShowsKey (FmtErr α)] [ShowsKey (FmtErr β)] [ShowsKey (FmtErr γ)]
    [ShowsKey (FmtErr δ)] [ShowsKey (FmtErr ε)] : ShowsKey (FmtErr (Err.SvcAg α β γ δ ε)) where
  toText_of_about := by
    rintro ⟨e⟩ pk h
    cases e with
    | inf e => exact ShowsKey.toText_of_about (e := FmtErr.mk e) h
    | infExt e => exact ShowsKey.toText_of_about (e := FmtErr.mk e) h
    | lido e => exact ShowsKey.toText_of_about (e := FmtErr.mk e) h
    | marinade e => exact ShowsKey.toText_of_about (e := FmtErr.mk e) h
    | sanctumSpl e => exact ShowsKey.toText_of_about (e := FmtErr.mk e) h
    | sanctumSplMulti e => exact ShowsKey.toText_of_about (e := FmtErr.mk e) h
    | spl e => exact ShowsKey.toText_of_about (e := FmtErr.mk e) h
    | wsol infallible => exact infallible.elim

instance : About (FmtErr Err.AccDeser) where
  about | ⟨.accDeser pk⟩ => some pk

instance : ShowsKey (FmtErr Err.AccDeser) where
  toText_of_about := by
    rintro ⟨e⟩ pk h
    cases e with
    | accDeser => cases h; exact ⟨"AccDeser", by decide, rfl⟩

instance : About (FmtErr (Err.InfExtUpdateErr E)) where
  about
    | ⟨.accDeser pk⟩ => some pk
    | ⟨.ctl _⟩ => none

instance [Display E.Inf1CtlErr] : ShowsKey (FmtErr (Err.InfExtUpdateErr E)) where
  toText_of_about := by
    rintro ⟨e⟩ pk h
    cases e with
    | accDeser => cases h; exact ⟨"AccDeser", by decide, rfl⟩
    | ctl => cases h

instance : About (FmtErr Err.FlatFeePricingColErr) where
  about
    | ⟨.feeAccountMissing mint⟩ => some mint
    | ⟨.programStateMissing⟩ => none

instance [Display Err.FlatFeePricingColErr] : ShowsKey (FmtErr Err.FlatFeePricingColErr) where
  toText_of_about := by
    rintro ⟨e⟩ pk h
    cases e with
    | feeAccountMissing => cases h; exact ⟨"FeeAccountMissing", by decide, rfl⟩
    | programStateMissing => cases h

instance : About (FmtErr Err.FlatSlabPricingColErr) where
  about | ⟨.mintNotFound e⟩ => some e.mint

instance : ShowsKey (FmtErr Err.FlatSlabPricingColErr) where
  toText_of_about := by
    rintro ⟨e⟩ pk h
    cases e with
    | mintNotFound => cases h; exact ⟨"MintNotFound", by decide, rfl⟩

instance : About (FmtErr (Err.ReserveV2ProgramErr E)) where
  about
    | ⟨.mintNotFound e⟩ => some e.mint
    | ⟨.sameMint mint⟩ => some mint
    | ⟨_⟩ => none

instance [Display (Err.ReserveV2ProgramErr E)] : ShowsKey (FmtErr (Err.ReserveV2ProgramErr E)) where
  toText_of_about := by
    rintro ⟨e⟩ pk h
    cases e with
    | mintNotFound => cases h; exact ⟨"MintNotFound", by decide, rfl⟩
    | sameMint => cases h; exact ⟨"SameMint", by decide, rfl⟩
    | _ => cases h

instance : About (FmtErr (Err.ReserveV2PricingColErr E)) where
  about
    | ⟨.program e⟩ => about (FmtErr.mk e)
    | ⟨.ctl _⟩ | ⟨.notUpdated⟩ => none

instance [Display E.Inf1CtlErr] [Display (Err.ReserveV2ProgramErr E)]
    [Display (Err.ReserveV2PricingColErr E)] : ShowsKey (FmtErr (Err.ReserveV2PricingColErr E)) where
  toText_of_about := by
    rintro ⟨e⟩ pk h
    cases e with
    | program e => exact ShowsKey.toText_of_about (e := FmtErr.mk e) h
    | ctl => cases h
    | notUpdated => cases h

instance [About (FmtErr α)] : About (FmtErr (Err.ReserveV2Swap α α)) where
  about | ⟨.flat e⟩ | ⟨.rangeOut e⟩ => about (FmtErr.mk e)

instance [Display (FmtErr α)] [About (FmtErr α)] [ShowsKey (FmtErr α)] :
    ShowsKey (FmtErr (Err.ReserveV2Swap α α)) where
  toText_of_about := by
    rintro ⟨e⟩ pk h
    cases e with
    | flat e => exact ShowsKey.toText_of_about (e := FmtErr.mk e) h
    | rangeOut e => exact ShowsKey.toText_of_about (e := FmtErr.mk e) h

instance : About (FmtErr (Err.PricingAgErr E)) where
  about
    | ⟨.flatFee _⟩ | ⟨.flatSlab _⟩ => none
    | ⟨.reserveV2 e⟩ => about (FmtErr.mk e)

instance [Display E.FlatFeePricingErr] [Display E.FlatSlabPricingErr]
    [Display (Err.ReserveV2ProgramErr E)] : ShowsKey (FmtErr (Err.PricingAgErr E)) where
  toText_of_about := by
    rintro ⟨e⟩ pk h
    cases e with
    | flatFee => cases h
    | flatSlab => cases h
    | reserveV2 e => exact ShowsKey.toText_of_about (e := FmtErr.mk e) h

instance : About (FmtErr (Err.RebalanceQuoteErr E)) where
  about _ := none

instance [Display (Err.RebalanceQuoteErr E)] : ShowsKey (FmtErr (Err.RebalanceQuoteErr E)) where
  toText_of_about h := by cases h

instance : About (FmtErr (Err.QuoteErr E)) where
  about
    | ⟨.pricing e⟩ => about (FmtErr.mk e)
    | ⟨_⟩ => none

instance [Display E.FlatFeePricingErr] [Display E.FlatSlabPricingErr]
    [Display (Err.ReserveV2ProgramErr E)] [Display (Err.QuoteErr E)] :
    ShowsKey (FmtErr (Err.QuoteErr E)) where
  toText_of_about := by
    rintro ⟨e⟩ pk h
    cases e with
    | pricing e => exact ShowsKey.toText_of_about (e := FmtErr.mk e) h
    | _ => cases h

end Keys

section InfErrKeys

variable {T : Inf1Types} [About (FmtErr T.PricingProgErr)] [About (FmtErr T.RebalanceQuoteErr)]
  [About (FmtErr T.SwapQuoteErr)] [About (FmtErr T.UpdatePpErr)] [About (FmtErr T.UpdateSvcErr)]

instance : About (FmtErr (InfErr T)) where
  about
    | ⟨.accDeser pk⟩ => some pk
    | ⟨.missingAcc pk⟩ => some pk
    | ⟨.missingReserves mint⟩ => some mint
    | ⟨.missingSplData mint⟩ => some mint
    | ⟨.missingSvcData mint⟩ => some mint
    | ⟨.unknownPp ppProgId⟩ => some ppProgId
    | ⟨.unknownSvc svcProgId⟩ => some svcProgId
    | ⟨.unsupportedMint mint⟩ => some mint
    | ⟨.pricingProg e⟩ => about (FmtErr.mk e)
    | ⟨.rebalanceQuote e⟩ => about (FmtErr.mk e)
    | ⟨.swapQuote e⟩ => about (FmtErr.mk e)
    | ⟨.updatePp e⟩ => about (FmtErr.mk e)
    | ⟨.updateSvc e⟩ => about (FmtErr.mk e)
    | ⟨.ctl _⟩ => none
    | ⟨.noValidPda⟩ => none

instance : About (FmtErr (UpdateErr (InfErr T))) where
  about
    | ⟨.accMissing pk⟩ => some pk
    | ⟨.inner e⟩ => about (FmtErr.mk e)

instance : About (AmmErr T) where
  about
    | .unsupportedControllerProgram programId => some programId
    | .inf e => about (FmtErr.mk e)
    | .update e => about (FmtErr.mk e)
    | _ => none

variable [Display (FmtErr T.PricingProgErr)] [Display (FmtErr T.RebalanceQuoteErr)]
  [Display (FmtErr T.SwapQuoteErr)] [Display (FmtErr T.UpdatePpErr)] [Display (FmtErr T.UpdateSvcErr)]
  [Display T.CtlErr] [Display (InfErr T)] [ShowsKey (FmtErr T.PricingProgErr)]
  [ShowsKey (FmtErr T.RebalanceQuoteErr)] [ShowsKey (FmtErr T.SwapQuoteErr)]
  [ShowsKey (FmtErr T.UpdatePpErr)] [ShowsKey (FmtErr T.UpdateSvcErr)]

instance : ShowsKey (FmtErr (InfErr T)) where
  toText_of_about := by
    rintro ⟨e⟩ pk h
    cases e with
    | accDeser => cases h; exact ⟨"AccDeser", by decide, rfl⟩
    | missingAcc => cases h; exact ⟨"MissingAcc", by decide, rfl⟩
    | missingReserves => cases h; exact ⟨"MissingReserves", by decide, rfl⟩
    | missingSplData => cases h; exact ⟨"MissingSplData", by decide, rfl⟩
    | missingSvcData => cases h; exact ⟨"MissingSvcData", by decide, rfl⟩
    | unknownPp => cases h; exact ⟨"UnknownPp", by decide, rfl⟩
    | unknownSvc => cases h; exact ⟨"UnknownSvc", by decide, rfl⟩
    | unsupportedMint => cases h; exact ⟨"UnsupportedMint", by decide, rfl⟩
    | pricingProg e => exact ShowsKey.toText_of_about (e := FmtErr.mk e) h
    | rebalanceQuote e => exact ShowsKey.toText_of_about (e := FmtErr.mk e) h
    | swapQuote e => exact ShowsKey.toText_of_about (e := FmtErr.mk e) h
    | updatePp e => exact ShowsKey.toText_of_about (e := FmtErr.mk e) h
    | updateSvc e => exact ShowsKey.toText_of_about (e := FmtErr.mk e) h
    | ctl => cases h
    | noValidPda => cases h

instance : ShowsKey (FmtErr (UpdateErr (InfErr T))) where
  toText_of_about := by
    rintro ⟨e⟩ pk h
    cases e with
    | accMissing => cases h; exact ⟨"MissingAcc", by decide, rfl⟩
    | inner e => exact ShowsKey.toText_of_about (e := FmtErr.mk e) h

instance : ShowsKey (AmmErr T) where
  toText_of_about := by
    intro e pk h
    cases e with
    | unsupportedControllerProgram =>
      cases h
      exact ⟨"Unsupported controller program", by decide, rfl⟩
    | inf e => exact ShowsKey.toText_of_about (e := FmtErr.mk e) h
    | update e => exact ShowsKey.toText_of_about (e := FmtErr.mk e) h
    | _ => cases h

end InfErrKeys

namespace Reference

/-- Errors without data. -/
abbrev errs : ErrTypes := ⟨Unit, Unit, Unit, Unit, Unit, Unit, Unit, Unit⟩

/-- A text for what has no key in it. -/
scoped instance (priority := low) noKeyText {α : Type} : Display α := ⟨fun _ => "no key"⟩

end Reference

end InfJup
