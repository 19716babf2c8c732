import HyperliquidSdk.Rest.Decoder
import HyperliquidSdk.Types.ResponseTypes

/-!
# Parsers of the account responses

The parsers of `RestApiMessageParser` for the responses about users, their positions,
fees, vaults, staking and loans.
-/

set_option autoImplicit false

namespace HyperliquidSdk.Rest

open Foundation Foundation.OnDemand

variable {ρ : Type} (document : Bytes → Except Error Value)

/-! ## Clearinghouse states -/

/-- A margin summary, written to its place in the response field by field. -/
def parseMarginSummary (change : (MarginSummary → MarginSummary) → ρ → ρ) : Decoder ρ Unit := do
  let accountValue ← doubleField "accountValue"
  modifyThe ρ (change fun summary => { summary with accountValue })
  let totalNtlPos ← doubleField "totalNtlPos"
  modifyThe ρ (change fun summary => { summary with totalNtlPos })
  let totalRawUsd ← doubleField "totalRawUsd"
  modifyThe ρ (change fun summary => { summary with totalRawUsd })
  let totalMarginUsed ← doubleField "totalMarginUsed"
  modifyThe ρ (change fun summary => { summary with totalMarginUsed })

/-- The price of a value that is not null, and none if that is not a string. -/
def stringNumber (value : Value) : Decoder ρ (Option Double) :=
  match value.getString with
  | .ok text => some <$> toDouble text
  | .error _ => return none

/-- The last three fields of the position are never read. -/
def parseAssetPosition : Decoder ρ AssetPosition := do
  let coin ← stringField "coin"
  let szi ← doubleField "szi"
  let entryPx ← doubleField "entryPx"
  let positionValue ← doubleField "positionValue"
  let unrealizedPnl ← doubleField "unrealizedPnl"
  let returnOnEquity ← doubleField "returnOnEquity"
  let liquidationPx := (← (← presentField "liquidationPx").mapM stringNumber).join
  return { coin, szi, entryPx, positionValue, unrealizedPnl, returnOnEquity,
           liquidationPx := liquidationPx.getD .zero, hasLiquidationPx := liquidationPx.isSome }

def decodeClearinghouseState : Decoder ClearinghouseState Unit := do
  within (← objectField "marginSummary") <|
    parseMarginSummary fun change state =>
      { state with marginSummary := change state.marginSummary }
  match ← presentField "crossMarginSummary" with
  | none => pure ()
  | some cross =>
      within (← cross.getObject) <|
        parseMarginSummary fun change state =>
          { state with crossMarginSummary := change state.crossMarginSummary }
  let used := (← (← presentField "crossMaintenanceMarginUsed").mapM stringNumber).join
  modifyThe ClearinghouseState fun state =>
    { state with crossMaintenanceMarginUsed := used.getD .zero }
  let withdrawable ← doubleField "withdrawable"
  modifyThe ClearinghouseState fun state => { state with withdrawable }
  let time ← uint64Field "time"
  modifyThe ClearinghouseState fun state => { state with time }
  (← arrayField "assetPositions").forM fun entry => do
    let position ← within (← entry.getObject) do
      within (← objectField "position") parseAssetPosition
    modifyThe ClearinghouseState fun state =>
      { state with assetPositions := state.assetPositions ++ [position] }

/-- A `simdjson_error` is logged, and the state has what was read before. -/
def parseClearinghouseStateObj (object : Object) : Decoder ρ ClearinghouseState := do
  let (_, state) ← attempt object {} decodeClearinghouseState
  return state

def parseClearinghouseState (message : Bytes) : Conversions ClearinghouseState :=
  parseDocument document {} message fun doc => do
    let state ← parseClearinghouseStateObj (← doc.getObject)
    set state

def parseSpotBalance : Decoder ρ SpotBalance := do
  let coin ← stringField "coin"
  let token ← intField "token"
  let hold ← parseNumberField "hold"
  let total ← parseNumberField "total"
  let entryNtl ← parseNumberField "entryNtl"
  return { coin, token, hold, total, entryNtl }

def parseSpotClearinghouseStateObj : Decoder ρ SpotClearinghouseStateResponse := do
  let balances ← (← arrayField "balances").mapM fun entry => do
    within (← entry.getObject) parseSpotBalance
  return { balances }

def parseSpotClearinghouseState (message : Bytes) :
    Conversions SpotClearinghouseStateResponse :=
  parseDocument document {} message fun doc => do
    let state ← within (← doc.getObject) parseSpotClearinghouseStateObj
    set state

def parseSubAccount : Decoder ρ SubAccount := do
  let name ← stringField "name"
  let subAccountUser ← stringField "subAccountUser"
  let master ← stringField "master"
  let clearinghouseState ← parseClearinghouseStateObj (← objectField "clearinghouseState")
  let spotState ← within (← objectField "spotState") parseSpotClearinghouseStateObj
  return { name, subAccountUser, master, clearinghouseState, spotState }

def parseSubAccounts (message : Bytes) : Conversions SubAccountsResponse :=
  parseDocument document {} message fun doc => do
    if doc.isNull then return
    else
      (← doc.getArray).forM fun entry => do
        let sub ← within (← entry.getObject) parseSubAccount
        modifyThe SubAccountsResponse fun response =>
          { response with subAccounts := response.subAccounts ++ [sub] }

/-- Write the elements of a pair of sizes; an element after them is only read. -/
def parseSizes (values : List Value) (change : Nat → Double → ActiveAssetData → ActiveAssetData) :
    Decoder ActiveAssetData Unit :=
  values.zipIdx.forM fun (value, idx) => do
    let size ← toNumber value
    modifyThe ActiveAssetData (change idx size)

def parseActiveAssetData (message : Bytes) : Conversions ActiveAssetData :=
  parseDocument document {} message fun doc => do
    within (← doc.getObject) do
      let user ← stringField "user"
      modifyThe ActiveAssetData fun response => { response with user }
      let coin ← stringField "coin"
      modifyThe ActiveAssetData fun response => { response with coin }
      within (← objectField "leverage") do
        let type ← stringField "type"
        modifyThe ActiveAssetData fun response =>
          { response with leverageType := stringToLeverageType type }
        let leverageValue ← parseNumberField "value"
        modifyThe ActiveAssetData fun response => { response with leverageValue }
        match ← optionalField Value.getString "rawUsd" with
        | some text =>
            let rawUsd ← toDouble text
            modifyThe ActiveAssetData fun response => { response with leverageRawUsd := rawUsd }
        | none =>
            let leverageRawUsd ← optionalField Value.getDouble "rawUsd"
            modifyThe ActiveAssetData fun response => { response with leverageRawUsd }
      parseSizes (← arrayField "maxTradeSzs") fun idx size response =>
        if idx = 0 then { response with maxTradeSzLong := size }
        else if idx = 1 then { response with maxTradeSzShort := size }
        else response
      parseSizes (← arrayField "availableToTrade") fun idx size response =>
        if idx = 0 then { response with availableToTradeLong := size }
        else if idx = 1 then { response with availableToTradeShort := size }
        else response
      let markPx ← parseNumberField "markPx"
      modifyThe ActiveAssetData fun response => { response with markPx }

/-! ## Fees and builders -/

def parseDailyUserVolume : Decoder ρ DailyUserVolume := do
  let date ← stringField "date"
  let userCross ← parseNumberField "userCross"
  let userAdd ← parseNumberField "userAdd"
  let exchange ← parseNumberField "exchange"
  return { date, userCross, userAdd, exchange }

def parseFeeTierVip : Decoder ρ FeeTierVip := do
  let ntlCutoff ← parseNumberField "ntlCutoff"
  let cross ← parseNumberField "cross"
  let add ← parseNumberField "add"
  let spotCross ← parseNumberField "spotCross"
  let spotAdd ← parseNumberField "spotAdd"
  return { ntlCutoff, cross, add, spotCross, spotAdd }

def parseFeeTierMm : Decoder ρ FeeTierMm := do
  let makerFractionCutoff ← parseNumberField "makerFractionCutoff"
  let add ← parseNumberField "add"
  return { makerFractionCutoff, add }

def parseStakingDiscountTier : Decoder ρ StakingDiscountTier := do
  let bpsOfMaxSupply ← parseNumberField "bpsOfMaxSupply"
  let discount ← parseNumberField "discount"
  return { bpsOfMaxSupply, discount }

def modifySchedule (change : FeeSchedule → FeeSchedule) : Decoder UserFeesResponse Unit :=
  modifyThe UserFeesResponse fun response =>
    { response with feeSchedule := change response.feeSchedule }

def parseFeeSchedule : Decoder UserFeesResponse Unit := do
  let cross ← parseNumberField "cross"
  modifySchedule fun schedule => { schedule with cross }
  let add ← parseNumberField "add"
  modifySchedule fun schedule => { schedule with add }
  let spotCross ← parseNumberField "spotCross"
  modifySchedule fun schedule => { schedule with spotCross }
  let spotAdd ← parseNumberField "spotAdd"
  modifySchedule fun schedule => { schedule with spotAdd }
  let referralDiscount ← parseNumberField "referralDiscount"
  modifySchedule fun schedule => { schedule with referralDiscount }
  within (← objectField "tiers") do
    (← arrayField "vip").forM fun entry => do
      let tier ← within (← entry.getObject) parseFeeTierVip
      modifySchedule fun schedule => { schedule with vipTiers := schedule.vipTiers ++ [tier] }
    (← arrayField "mm").forM fun entry => do
      let tier ← within (← entry.getObject) parseFeeTierMm
      modifySchedule fun schedule => { schedule with mmTiers := schedule.mmTiers ++ [tier] }
  (← arrayField "stakingDiscountTiers").forM fun entry => do
    let tier ← within (← entry.getObject) parseStakingDiscountTier
    modifySchedule fun schedule =>
      { schedule with stakingDiscountTiers := schedule.stakingDiscountTiers ++ [tier] }

def parseStakingLink : Decoder ρ StakingLink := do
  let type ← stringField "type"
  let stakingUser ← stringField "stakingUser"
  return { type, stakingUser }

def parseActiveStakingDiscount : Decoder ρ ActiveStakingDiscount := do
  let bpsOfMaxSupply ← parseNumberField "bpsOfMaxSupply"
  let discount ← parseNumberField "discount"
  return { bpsOfMaxSupply, discount }

def parseUserFees (message : Bytes) : Conversions UserFeesResponse :=
  parseDocument document {} message fun doc => do
    within (← doc.getObject) do
      (← arrayField "dailyUserVlm").forM fun entry => do
        let volume ← within (← entry.getObject) parseDailyUserVolume
        modifyThe UserFeesResponse fun response =>
          { response with dailyUserVlm := response.dailyUserVlm ++ [volume] }
      within (← objectField "feeSchedule") parseFeeSchedule
      let userCrossRate ← parseNumberField "userCrossRate"
      modifyThe UserFeesResponse fun response => { response with userCrossRate }
      let userAddRate ← parseNumberField "userAddRate"
      modifyThe UserFeesResponse fun response => { response with userAddRate }
      let userSpotCrossRate ← parseNumberField "userSpotCrossRate"
      modifyThe UserFeesResponse fun response => { response with userSpotCrossRate }
      let userSpotAddRate ← parseNumberField "userSpotAddRate"
      modifyThe UserFeesResponse fun response => { response with userSpotAddRate }
      let activeReferralDiscount ← parseNumberField "activeReferralDiscount"
      modifyThe UserFeesResponse fun response => { response with activeReferralDiscount }
      let feeTrialEscrow ← parseNumberField "feeTrialEscrow"
      modifyThe UserFeesResponse fun response => { response with feeTrialEscrow }
      let nextTrialAvailableTimestamp ← (← presentField "nextTrialAvailableTimestamp").mapM
        fun value => liftM value.getUInt64
      modifyThe UserFeesResponse fun response => { response with nextTrialAvailableTimestamp }
      let stakingLink ← (← presentField "stakingLink").mapM fun value => do
        within (← value.getObject) parseStakingLink
      modifyThe UserFeesResponse fun response => { response with stakingLink }
      let activeStakingDiscount ← (← presentField "activeStakingDiscount").mapM fun value => do
        within (← value.getObject) parseActiveStakingDiscount
      modifyThe UserFeesResponse fun response => { response with activeStakingDiscount }

def parseMaxBuilderFee (message : Bytes) : Conversions MaxBuilderFeeResponse :=
  parseDocument document {} message fun doc => do
    let maxFeeRateTenthsBps ← getInt doc
    set ({ maxFeeRateTenthsBps } : MaxBuilderFeeResponse)

def parseApprovedBuilders (message : Bytes) : Conversions ApprovedBuildersResponse :=
  parseDocument document {} message fun doc => do
    (← doc.getArray).forM fun entry => do
      let builder ← entry.getString
      modifyThe ApprovedBuildersResponse fun response =>
        { response with builders := response.builders ++ [builder] }

/-! ## Users -/

def parseUserDexAbstractionState (message : Bytes) : Conversions UserDexAbstractionResponse :=
  parseDocument document {} message fun doc => do
    if doc.isNull then set ({ enabled := none } : UserDexAbstractionResponse)
    else
      let enabled ← doc.getBool
      set ({ enabled } : UserDexAbstractionResponse)

def parseUserAbstraction (message : Bytes) : Conversions UserAbstractionResponse :=
  parseDocument document {} message fun doc => do
    let state ← doc.getString
    set ({ state := stringToUserAbstractionState state } : UserAbstractionResponse)

def parseUserRateLimit (message : Bytes) : Conversions UserRateLimitResponse :=
  parseDocument document {} message fun doc => do
    within (← doc.getObject) do
      let cumVlm ← doubleField "cumVlm"
      modifyThe UserRateLimitResponse fun response => { response with cumVlm }
      let nRequestsUsed ← int64Field "nRequestsUsed"
      modifyThe UserRateLimitResponse fun response => { response with nRequestsUsed }
      let nRequestsCap ← int64Field "nRequestsCap"
      modifyThe UserRateLimitResponse fun response => { response with nRequestsCap }
      let nRequestsSurplus ← int64Field "nRequestsSurplus"
      modifyThe UserRateLimitResponse fun response => { response with nRequestsSurplus }

def parseUserRole (message : Bytes) : Conversions UserRoleResponse :=
  parseDocument document {} message fun doc => do
    within (← doc.getObject) do
      let role := stringToUserRoleType (← stringField "role")
      modifyThe UserRoleResponse fun response => { response with role }
      match ← optionalField Value.getObject "data" with
      | none => return
      | some object =>
          within object do
            if role = .agent then
              let agentUser ← optionalField Value.getString "user"
              modifyThe UserRoleResponse fun response => { response with agentUser }
            else if role = .subAccount then
              let subAccountMaster ← optionalField Value.getString "master"
              modifyThe UserRoleResponse fun response => { response with subAccountMaster }

/-! ## Portfolios and vaults -/

def parsePortfolioPoints (key : String) : Decoder ρ (List (UInt64 × Double)) := do
  (← arrayField key).filterMapM (parsePair Value.getUInt64 doubleOf)

def parsePortfolioMetrics (period : PortfolioPeriodType) : Decoder ρ PortfolioPeriodMetrics := do
  let accountValueHistory ← parsePortfolioPoints "accountValueHistory"
  let pnlHistory ← parsePortfolioPoints "pnlHistory"
  let vlm ← parseNumberField "vlm"
  return { period, accountValueHistory, pnlHistory, vlm }

def parsePortfolioPeriod (entry : Value) : Decoder ρ (Option PortfolioPeriodMetrics) := do
  match ← entry.getArray with
  | [] => return none
  | first :: rest =>
      let periodName ← first.getString
      match rest with
      | [] => return none
      | second :: _ =>
          let metrics ← within (← second.getObject)
            (parsePortfolioMetrics (stringToPortfolioPeriodType periodName))
          return some metrics

def parsePortfolioArray (entries : List Value) : Decoder ρ (List PortfolioPeriodMetrics) :=
  entries.filterMapM parsePortfolioPeriod

def parsePortfolio (message : Bytes) : Conversions PortfolioResponse :=
  parseDocument document {} message fun doc => do
    let periods ← parsePortfolioArray (← doc.getArray)
    set ({ periods } : PortfolioResponse)

def parseVaultFollower : Decoder ρ VaultFollower := do
  let user ← stringField "user"
  let vaultEquity ← parseNumberField "vaultEquity"
  let pnl ← parseNumberField "pnl"
  let allTimePnl ← parseNumberField "allTimePnl"
  let daysFollowing ← intField "daysFollowing"
  let vaultEntryTime ← uint64Field "vaultEntryTime"
  let lockupUntil ← uint64Field "lockupUntil"
  return { user, vaultEquity, pnl, allTimePnl, daysFollowing, vaultEntryTime, lockupUntil }

/-- The child addresses that the data of a relationship has. -/
def childAddressesOf (data : Value) : Decoder ρ (List Value) := do
  match data.getObject with
  | .error _ => return []
  | .ok object =>
      return (← within object (optionalField Value.getArray "childAddresses")).getD []

def parseRelationship : Decoder VaultDetailsResponse Unit := do
  let type ← stringField "type"
  modifyThe VaultDetailsResponse fun response => { response with relationship.type := type }
  match ← presentField "data" with
  | none => return
  | some data =>
      (← childAddressesOf data).forM fun child => do
        let address ← child.getString
        modifyThe VaultDetailsResponse fun response =>
          { response with
            relationship.childAddresses := response.relationship.childAddresses ++ [address] }

def parseVaultDetails (message : Bytes) : Conversions VaultDetailsResponse :=
  parseDocument document {} message fun doc => do
    within (← doc.getObject) do
      let name ← stringField "name"
      modifyThe VaultDetailsResponse fun response => { response with name }
      let vaultAddress ← stringField "vaultAddress"
      modifyThe VaultDetailsResponse fun response => { response with vaultAddress }
      let leader ← stringField "leader"
      modifyThe VaultDetailsResponse fun response => { response with leader }
      let description ← stringField "description"
      modifyThe VaultDetailsResponse fun response => { response with description }
      let portfolio ← parsePortfolioArray (← arrayField "portfolio")
      modifyThe VaultDetailsResponse fun response => { response with portfolio }
      let apr ← parseNumberField "apr"
      modifyThe VaultDetailsResponse fun response => { response with apr }
      let followerState ← presentField "followerState"
      modifyThe VaultDetailsResponse fun response =>
        { response with followerStateRaw := followerState.map Value.toJsonString }
      let leaderFraction ← parseNumberField "leaderFraction"
      modifyThe VaultDetailsResponse fun response => { response with leaderFraction }
      let leaderCommission ← parseNumberField "leaderCommission"
      modifyThe VaultDetailsResponse fun response => { response with leaderCommission }
      (← arrayField "followers").forM fun entry => do
        let follower ← within (← entry.getObject) parseVaultFollower
        modifyThe VaultDetailsResponse fun response =>
          { response with followers := response.followers ++ [follower] }
      let maxDistributable ← parseNumberField "maxDistributable"
      modifyThe VaultDetailsResponse fun response => { response with maxDistributable }
      let maxWithdrawable ← parseNumberField "maxWithdrawable"
      modifyThe VaultDetailsResponse fun response => { response with maxWithdrawable }
      let isClosed ← boolField "isClosed"
      modifyThe VaultDetailsResponse fun response => { response with isClosed }
      match ← presentField "relationship" with
      | none => pure ()
      | some relationship => within (← relationship.getObject) parseRelationship
      let allowDeposits ← boolField "allowDeposits"
      modifyThe VaultDetailsResponse fun response => { response with allowDeposits }
      let alwaysCloseOnWithdraw ← boolField "alwaysCloseOnWithdraw"
      modifyThe VaultDetailsResponse fun response => { response with alwaysCloseOnWithdraw }

def parseUserVaultEquity : Decoder ρ UserVaultEquity := do
  let vaultAddress ← stringField "vaultAddress"
  let equity ← parseNumberField "equity"
  return { vaultAddress, equity }

def parseUserVaultEquities (message : Bytes) : Conversions UserVaultEquitiesResponse :=
  parseDocument document {} message fun doc => do
    (← doc.getArray).forM fun entry => do
      let equity ← within (← entry.getObject) parseUserVaultEquity
      modifyThe UserVaultEquitiesResponse fun response =>
        { response with equities := response.equities ++ [equity] }

/-! ## Referrals -/

def parseReferredBy : Decoder ρ ReferredBy := do
  let referrer ← stringField "referrer"
  let code ← stringField "code"
  return { referrer, code }

def parseTokenRewardState : Decoder ρ TokenRewardState := do
  let cumVlm ← parseNumberField "cumVlm"
  let unclaimedRewards ← parseNumberField "unclaimedRewards"
  let claimedRewards ← parseNumberField "claimedRewards"
  let builderRewards ← parseNumberField "builderRewards"
  return { cumVlm, unclaimedRewards, claimedRewards, builderRewards }

def parseReferralState : Decoder ρ ReferralState := do
  let cumVlm ← parseNumberField "cumVlm"
  let cumRewardedFeesSinceReferred ← parseNumberField "cumRewardedFeesSinceReferred"
  let cumFeesRewardedToReferrer ← parseNumberField "cumFeesRewardedToReferrer"
  let timeJoined ← uint64Field "timeJoined"
  let user ← stringField "user"
  return { cumVlm, cumRewardedFeesSinceReferred, cumFeesRewardedToReferrer, timeJoined, user }

/-- What `data` holds depends on the stage. -/
def parseReferrerData (stage : Bytes) : Decoder ρ ReferrerState := do
  if stage = utf8 "needToTrade" then
    let required ← parseNumberField "required"
    return { stage, required }
  else
    let code ← optionalField Value.getString "code"
    let referralStates ← ((← optionalField Value.getArray "referralStates").getD []).mapM
      fun entry => do within (← entry.getObject) parseReferralState
    return { stage, code, referralStates }

def parseReferrerState : Decoder ρ ReferrerState := do
  let stage ← stringField "stage"
  match ← optionalField Value.getObject "data" with
  | none => return { stage }
  | some object => within object (parseReferrerData stage)

/-- Only the first of the pairs is read. -/
def parseTokenToState (entries : List Value) : Decoder ρ (Option (Int32 × TokenRewardState)) := do
  match entries with
  | [] => return none
  | entry :: _ =>
      parsePair getInt (fun value => do within (← value.getObject) parseTokenRewardState) entry

def parseReferral (message : Bytes) : Conversions ReferralResponse :=
  parseDocument document {} message fun doc => do
    within (← doc.getObject) do
      let referredBy ← (← presentField "referredBy").mapM fun value => do
        within (← value.getObject) parseReferredBy
      modifyThe ReferralResponse fun response => { response with referredBy }
      let cumVlm ← parseNumberField "cumVlm"
      modifyThe ReferralResponse fun response => { response with cumVlm }
      let unclaimedRewards ← parseNumberField "unclaimedRewards"
      modifyThe ReferralResponse fun response => { response with unclaimedRewards }
      let claimedRewards ← parseNumberField "claimedRewards"
      modifyThe ReferralResponse fun response => { response with claimedRewards }
      let builderRewards ← parseNumberField "builderRewards"
      modifyThe ReferralResponse fun response => { response with builderRewards }
      let entries ← optionalField Value.getArray "tokenToState"
      let tokenToState ← parseTokenToState (entries.getD [])
      modifyThe ReferralResponse fun response => { response with tokenToState }
      let referrerState ← (← presentField "referrerState").mapM fun value => do
        within (← value.getObject) parseReferrerState
      modifyThe ReferralResponse fun response => { response with referrerState }

/-! ## Loans -/

def parseBorrowLendReserveStateFields : Decoder ρ BorrowLendReserveState := do
  let borrowYearlyRate ← parseNumberField "borrowYearlyRate"
  let supplyYearlyRate ← parseNumberField "supplyYearlyRate"
  let balance ← parseNumberField "balance"
  let utilization ← parseNumberField "utilization"
  let oraclePx ← parseNumberField "oraclePx"
  let ltv ← parseNumberField "ltv"
  let totalSupplied ← parseNumberField "totalSupplied"
  let totalBorrowed ← parseNumberField "totalBorrowed"
  return { borrowYearlyRate, supplyYearlyRate, balance, utilization, oraclePx, ltv, totalSupplied,
           totalBorrowed }

def parseBorrowLendReserveState (message : Bytes) : Conversions BorrowLendReserveState :=
  parseDocument document {} message fun doc => do
    let reserve ← within (← doc.getObject) parseBorrowLendReserveStateFields
    set reserve

def parseAllBorrowLendReserveStates (message : Bytes) :
    Conversions AllBorrowLendReserveStatesResponse :=
  parseDocument document {} message fun doc => do
    (← doc.getArray).forM fun entry => do
      let parsed ← parsePair getInt
        (fun value => do within (← value.getObject) parseBorrowLendReserveStateFields) entry
      match parsed with
      | none => return
      | some (token, state) =>
          modifyThe AllBorrowLendReserveStatesResponse fun response =>
            { response with reserves := response.reserves ++ [{ token, state }] }

def parsePositionSide : Decoder ρ BorrowLendPositionSide := do
  let basis ← parseNumberField "basis"
  let value ← parseNumberField "value"
  return { basis, value }

def parsePositionSides : Decoder ρ (BorrowLendPositionSide × BorrowLendPositionSide) := do
  let borrow ← within (← objectField "borrow") parsePositionSide
  let supply ← within (← objectField "supply") parsePositionSide
  return (borrow, supply)

def parseBorrowLendUserState (message : Bytes) : Conversions BorrowLendUserStateResponse :=
  parseDocument document {} message fun doc => do
    within (← doc.getObject) do
      (← arrayField "tokenToState").forM fun entry => do
        let parsed ← parsePair getInt
          (fun value => do within (← value.getObject) parsePositionSides) entry
        match parsed with
        | none => return
        | some (token, borrow, supply) =>
            modifyThe BorrowLendUserStateResponse fun response =>
              { response with
                tokenToState := response.tokenToState ++ [{ token, borrow, supply }] }
      let health ← stringField "health"
      modifyThe BorrowLendUserStateResponse fun response => { response with health }
      let healthFactor ← (← presentField "healthFactor").mapM toNumber
      modifyThe BorrowLendUserStateResponse fun response => { response with healthFactor }

def parseUserBorrowLendInterestEntry : Decoder ρ UserBorrowLendInterestEntry := do
  let time ← uint64Field "time"
  let token ← stringField "token"
  let borrow ← parseNumberField "borrow"
  let supply ← parseNumberField "supply"
  return { time, token, borrow, supply }

def parseUserBorrowLendInterest (message : Bytes) : Conversions UserBorrowLendInterestResponse :=
  parseDocument document {} message fun doc => do
    (← doc.getArray).forM fun entry => do
      let item ← within (← entry.getObject) parseUserBorrowLendInterestEntry
      modifyThe UserBorrowLendInterestResponse fun response =>
        { response with interest := response.interest ++ [item] }

def parseLiquidatableEntry : Decoder ρ LiquidatableEntry := do
  let user ← stringField "user"
  let isolatedAsset ← within (← objectField "positionIndex") do
    within (← objectField "isolated") (intField "asset")
  let marginAvailable ← firstTwo Value.getDouble .zero (← arrayField "marginAvailable")
  return { user, isolatedAsset, marginAvailable }

def parseLiquidatable (message : Bytes) : Conversions LiquidatableResponse :=
  parseDocument document {} message fun doc => do
    (← doc.getArray).forM fun entry => do
      let item ← within (← entry.getObject) parseLiquidatableEntry
      modifyThe LiquidatableResponse fun response =>
        { response with positions := response.positions ++ [item] }

/-! ## Ledger -/

/-- The raw text of the delta is kept if its type is unknown. -/
def parseLedgerUpdateDelta (rawJson : Bytes) : Decoder ρ LedgerUpdateDelta := do
  let type := stringToLedgerUpdateDeltaType (← stringField "type")
  match type with
  | .funding =>
      let coin ← stringField "coin"
      let fundingRate ← parseNumberField "fundingRate"
      let szi ← parseNumberField "szi"
      let usdc ← parseNumberField "usdc"
      let nSamples ← (← presentField "nSamples").mapM toNumber
      return { type, coin, fundingRate, szi, usdc, nSamples }
  | .deposit =>
      let usdc ← parseNumberField "usdc"
      return { type, usdc }
  | .withdraw =>
      let usdc ← parseNumberField "usdc"
      let fee ← parseNumberField "fee"
      let nonce ← optionalField Value.getUInt64 "nonce"
      return { type, usdc, fee, nonce }
  | .accountClassTransfer =>
      let usdc ← parseNumberField "usdc"
      let toPerp ← optionalField Value.getBool "toPerp"
      return { type, usdc, toPerp }
  | .internalTransfer =>
      let usdc ← parseNumberField "usdc"
      let user ← stringField "user"
      let destination ← stringField "destination"
      let fee ← parseNumberField "fee"
      return { type, usdc, user, destination, fee }
  | .subAccountTransfer =>
      let usdc ← parseNumberField "usdc"
      let user ← stringField "user"
      let destination ← stringField "destination"
      return { type, usdc, user, destination }
  | .spotTransfer =>
      let token ← stringField "token"
      let amount ← parseNumberField "amount"
      let usdcValue ← parseNumberField "usdcValue"
      let user ← stringField "user"
      let destination ← stringField "destination"
      let fee ← parseNumberField "fee"
      let nativeTokenFee ← parseNumberField "nativeTokenFee"
      return { type, token, amount, usdcValue, user, destination, fee, nativeTokenFee }
  | .unknown => return { type, rawJson }

def parseLedgerUpdateEntry : Decoder ρ LedgerUpdateEntry := do
  let time ← uint64Field "time"
  let hash ← stringField "hash"
  let deltaObj ← field "delta"
  let delta ← within (← deltaObj.getObject) (parseLedgerUpdateDelta deltaObj.toJsonString)
  return { time, hash, delta }

def parseUserFundingLedgerUpdateResponse (message : Bytes) :
    Conversions UserFundingLedgerUpdateResponse :=
  parseDocument document {} message fun doc => do
    (← doc.getArray).forM fun entry => do
      let updateEntry ← within (← entry.getObject) parseLedgerUpdateEntry
      modifyThe UserFundingLedgerUpdateResponse fun response =>
        { response with updates := response.updates ++ [updateEntry] }

def parseUserFunding (message : Bytes) : Conversions UserFundingLedgerUpdateResponse :=
  parseUserFundingLedgerUpdateResponse document message

def parseUserNonFundingLedgerUpdates (message : Bytes) :
    Conversions UserFundingLedgerUpdateResponse :=
  parseUserFundingLedgerUpdateResponse document message

/-! ## Staking -/

def parseDelegation : Decoder ρ Delegation := do
  let validator ← stringField "validator"
  let amount ← parseNumberField "amount"
  let lockedUntilTimestamp ← uint64Field "lockedUntilTimestamp"
  return { validator, amount, lockedUntilTimestamp }

def parseDelegations (message : Bytes) : Conversions DelegationsResponse :=
  parseDocument document {} message fun doc => do
    (← doc.getArray).forM fun entry => do
      let delegation ← within (← entry.getObject) parseDelegation
      modifyThe DelegationsResponse fun response =>
        { response with delegations := response.delegations ++ [delegation] }

def parseDelegatorSummary (message : Bytes) : Conversions DelegatorSummaryResponse :=
  parseDocument document {} message fun doc => do
    within (← doc.getObject) do
      let delegated ← parseNumberField "delegated"
      modifyThe DelegatorSummaryResponse fun response => { response with delegated }
      let undelegated ← parseNumberField "undelegated"
      modifyThe DelegatorSummaryResponse fun response => { response with undelegated }
      let totalPendingWithdrawal ← parseNumberField "totalPendingWithdrawal"
      modifyThe DelegatorSummaryResponse fun response => { response with totalPendingWithdrawal }
      let nPendingWithdrawals ← intField "nPendingWithdrawals"
      modifyThe DelegatorSummaryResponse fun response => { response with nPendingWithdrawals }

def parseDelegateDelta : Decoder ρ DelegatorHistoryDelta := do
  let validator ← stringField "validator"
  let amount ← parseNumberField "amount"
  let isUndelegate ← boolField "isUndelegate"
  return { type := .delegate, validator, amount, isUndelegate }

def parseCDepositDelta : Decoder ρ DelegatorHistoryDelta := do
  let amount ← parseNumberField "amount"
  return { type := .cDeposit, amount }

def parseWithdrawalDelta : Decoder ρ DelegatorHistoryDelta := do
  let amount ← parseNumberField "amount"
  let phase ← stringField "phase"
  return { type := .withdrawal, amount, phase := stringToWithdrawalPhase phase }

/-- The delta is of the first of the three kinds that it has a field for. -/
def parseDelegatorDelta : Decoder ρ DelegatorHistoryDelta := do
  match ← optionalField .ok "delegate" with
  | some value => within (← value.getObject) parseDelegateDelta
  | none =>
      match ← optionalField .ok "cDeposit" with
      | some value => within (← value.getObject) parseCDepositDelta
      | none =>
          match ← optionalField .ok "withdrawal" with
          | some value => within (← value.getObject) parseWithdrawalDelta
          | none => return { type := .unknown }

def parseDelegatorHistoryEntry : Decoder ρ DelegatorHistoryEntry := do
  let time ← uint64Field "time"
  let hash ← stringField "hash"
  let delta ← within (← objectField "delta") parseDelegatorDelta
  return { time, hash, delta }

def parseDelegatorHistory (message : Bytes) : Conversions DelegatorHistoryResponse :=
  parseDocument document {} message fun doc => do
    (← doc.getArray).forM fun entry => do
      let historyEntry ← within (← entry.getObject) parseDelegatorHistoryEntry
      modifyThe DelegatorHistoryResponse fun response =>
        { response with history := response.history ++ [historyEntry] }

def parseDelegatorReward : Decoder ρ DelegatorReward := do
  let time ← uint64Field "time"
  let source ← stringField "source"
  let totalAmount ← parseNumberField "totalAmount"
  return { time, source := stringToDelegatorRewardSource source, totalAmount }

def parseDelegatorRewards (message : Bytes) : Conversions DelegatorRewardsResponse :=
  parseDocument document {} message fun doc => do
    (← doc.getArray).forM fun entry => do
      let reward ← within (← entry.getObject) parseDelegatorReward
      modifyThe DelegatorRewardsResponse fun response =>
        { response with rewards := response.rewards ++ [reward] }

end HyperliquidSdk.Rest
