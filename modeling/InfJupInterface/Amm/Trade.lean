import InfJupInterface.Amm.Defs

/-!
# Quotes and swap instructions

What Jupiter gets from the AMM between updates: `quote` prices a swap, and
`getSwapAndAccountMetas` puts the instruction for it together.  Both only read the state.
-/

namespace InfJup

/-- `jupiter_amm_interface::SwapMode`. -/
inductive SwapMode where
  | exactIn
  | exactOut
  deriving DecidableEq

/-- `jupiter_amm_interface::QuoteParams`, as far as the AMM reads it. -/
structure QuoteParams where
  amount : UInt64
  inputMint : Pubkey
  outputMint : Pubkey
  swapMode : SwapMode

/-- `jupiter_amm_interface::Quote`. -/
structure Quote where
  inAmount : UInt64
  outAmount : UInt64
  feeAmount : UInt64
  feeMint : Pubkey
  feePct : ℚ

/-- `jupiter_amm_interface::SwapParams`, as far as the AMM reads it. -/
structure SwapParams where
  swapMode : SwapMode
  inAmount : UInt64
  outAmount : UInt64
  sourceMint : Pubkey
  destinationMint : Pubkey
  sourceTokenAccount : Pubkey
  destinationTokenAccount : Pubkey
  tokenTransferAuthority : Pubkey

/-- `solana_instruction::AccountMeta`. -/
structure AccountMeta where
  pubkey : Pubkey
  isSigner : Bool
  isWritable : Bool

/-- `AccountMeta::new_readonly`. -/
def AccountMeta.newReadonly (pubkey : Pubkey) (isSigner : Bool) : AccountMeta :=
  ⟨pubkey, isSigner, false⟩

/-- `jupiter_amm_interface::Swap`, as far as the AMM makes it. -/
inductive Swap where
  | sanctumSV2 (srcLstValueCalcAccs dstLstValueCalcAccs : UInt8) (srcLstIndex dstLstIndex : UInt32)

/-- `jupiter_amm_interface::SwapAndAccountMetas`. -/
structure SwapAndAccountMetas where
  swap : Swap
  accountMetas : List AccountMeta

/-- `swap_mode_to_trade_limit_ty`. -/
def swapModeToTradeLimitTy : SwapMode → TradeLimitTy
  | .exactIn => .exactIn ()
  | .exactOut => .exactOut ()

/-- `keys_writable_to_jup_metas`.  The signer is elevated by the Jupiter instruction, so no account
is marked as one. -/
def keysWritableToJupMetas (keys : List Pubkey) (writable : List Bool) : List AccountMeta :=
  (keys.zip writable).map fun kw => ⟨kw.1, false, kw.2⟩

/-- `u64::saturating_sub`. -/
def saturatingSub (a b : UInt64) : UInt64 := if b ≤ a then a - b else 0

namespace InfAmm

variable {T : Inf1Types} [Inf1Api T]

/-- `quote`.  The slot is loaded from the shared clock at the time of the call, and the fee is not
reported. -/
def quote (amm : InfAmm T) (mem : Atomics) (params : QuoteParams) : Except (AmmErr T) Quote :=
  let currentSlot := (mem amm.clockRef).slot
  let lastReleaseSlot := Inf1Api.lastReleaseSlot (Inf1Api.migrated amm.inner.pool 0)
  let slotLookahead := saturatingSub currentSlot lastReleaseSlot
  match Inf1Api.quoteTrade amm.inner ⟨params.inputMint, params.outputMint⟩ params.amount
      slotLookahead (swapModeToTradeLimitTy params.swapMode) with
  | .error e => .error (.inf e)
  | .ok quote => .ok
    { inAmount := quote.inp
      outAmount := quote.out
      feeAmount := 0
      feeMint := quote.outMint
      feePct := 0 }

/-- The arguments of the trade instruction: the limit is the other of the two amounts. -/
def tradeIxArgs (params : SwapParams) : TradeIxArgs :=
  let amounts := match swapModeToTradeLimitTy params.swapMode with
    | .exactIn _ => (params.inAmount, params.outAmount)
    | .exactOut _ => (params.outAmount, params.inAmount)
  { amt := amounts.1
    limit := amounts.2
    mints := ⟨params.sourceMint, params.destinationMint⟩
    signer := params.tokenTransferAuthority
    tokenAccs := ⟨params.sourceTokenAccount, params.destinationTokenAccount⟩ }

/-- `get_swap_and_account_metas`.  The controller program stands before the accounts of the
instruction. -/
def getSwapAndAccountMetas (amm : InfAmm T) (params : SwapParams) :
    Except (AmmErr T) SwapAndAccountMetas :=
  match Inf1Api.tradeIx amm.inner (tradeIxArgs params) (swapModeToTradeLimitTy params.swapMode) with
  | .error e => .error (.inf e)
  | .ok ix =>
    let metasAndFull : List AccountMeta × SwapIxArgs := match ix with
      | .exactIn ix =>
        (keysWritableToJupMetas (Inf1Api.swapExactInV2IxKeysOwned (Inf1Api.accs ix))
          (Inf1Api.swapExactInV2IxIsWriter (Inf1Api.accs ix)), Inf1Api.toFull ix)
      | .exactOut ix =>
        (keysWritableToJupMetas (Inf1Api.swapExactOutV2IxKeysOwned (Inf1Api.accs ix))
          (Inf1Api.swapExactOutV2IxIsWriter (Inf1Api.accs ix)), Inf1Api.toFull ix)
    let full := metasAndFull.2
    .ok
      { swap := .sanctumSV2 full.inpLstValueCalcAccs full.outLstValueCalcAccs full.inpLstIndex
          full.outLstIndex
        accountMetas := AccountMeta.newReadonly amm.programId false :: metasAndFull.1 }

end InfAmm

end InfJup
