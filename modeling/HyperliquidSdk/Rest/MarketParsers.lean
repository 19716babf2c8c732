import HyperliquidSdk.Rest.Decoder
import HyperliquidSdk.Types.ResponseTypes

/-!
# Parsers of the market responses

The parsers of `RestApiMessageParser` for the responses about assets, prices, books
and deployments. A field of the response has its value as soon as it is read.
-/

set_option autoImplicit false

namespace HyperliquidSdk.Rest

open Foundation Foundation.OnDemand

variable {ρ : Type} (document : Bytes → Except Error Value)

/-! ## Perpetuals -/

def parseAssetMeta : Decoder ρ AssetMeta := do
  let name ← stringField "name"
  let szDecimals ← intField "szDecimals"
  let maxLeverage ← intField "maxLeverage"
  return { name, szDecimals, maxLeverage }

def parseMeta (message : Bytes) : Conversions MetaResponse :=
  parseDocument document {} message fun doc => do
    within (← doc.getObject) do
      (← arrayField "universe").forM fun entry => do
        let asset ← within (← entry.getObject) parseAssetMeta
        modifyThe MetaResponse fun response =>
          { response with «universe» := response.universe ++ [asset] }

/-- The price of a context, which has none unless `midPx` is a string. -/
def parseMidPx : Decoder ρ (Bool × Double) := do
  match ← optionalField Value.getString "midPx" with
  | some text => return (true, ← toDouble text)
  | none => return (false, .zero)

def parsePerpAssetCtx (coin : Bytes) : Decoder ρ PerpAssetCtx := do
  let dayNtlVlm ← parseNumberField "dayNtlVlm"
  let prevDayPx ← parseNumberField "prevDayPx"
  let markPx ← parseNumberField "markPx"
  let (hasMidPx, midPx) ← parseMidPx
  let funding ← parseNumberField "funding"
  let openInterest ← parseNumberField "openInterest"
  let oraclePx ← parseNumberField "oraclePx"
  return { coin, dayNtlVlm, prevDayPx, markPx, midPx, hasMidPx, funding, openInterest, oraclePx }

def parseMetaAndAssetCtxs (message : Bytes) : Conversions MetaAndAssetCtxsResponse :=
  parseDocument document {} message fun doc => do
    match ← doc.getArray with
    | [] => return
    | metaValue :: rest =>
        within (← metaValue.getObject) do
          (← arrayField "universe").forM fun entry => do
            let asset ← within (← entry.getObject) parseAssetMeta
            modifyThe MetaAndAssetCtxsResponse fun response =>
              { response with
                «meta».«universe» := response.«meta».universe ++ [asset] }
        match rest with
        | [] => return
        | ctxs :: _ =>
            (← ctxs.getArray).zipIdx.forM fun (entry, idx) => do
              let object ← entry.getObject
              let «universe» := (← getThe MetaAndAssetCtxsResponse).«meta».universe
              let coin := ((«universe»[idx]?).map AssetMeta.name).getD []
              let ctx ← within object (parsePerpAssetCtx coin)
              modifyThe MetaAndAssetCtxsResponse fun response =>
                { response with assetCtxs := response.assetCtxs ++ [ctx] }

def parsePerpDex : Decoder ρ PerpDex := do
  let name ← stringField "name"
  let fullName ← stringField "fullName"
  let deployer ← stringField "deployer"
  let oracleUpdater ← (← presentField "oracleUpdater").mapM fun value => liftM value.getString
  let feeRecipient ← (← presentField "feeRecipient").mapM fun value => liftM value.getString
  let readPair := parsePair Value.getString fun value => liftM value.getString
  let assetToStreamingOiCap ← (← arrayField "assetToStreamingOiCap").filterMapM readPair
  let assetToFundingMultiplier ← (← arrayField "assetToFundingMultiplier").filterMapM readPair
  return { name, fullName, deployer, oracleUpdater, feeRecipient, assetToStreamingOiCap,
           assetToFundingMultiplier }

/-- The first element, which is always null, is skipped. -/
def parsePerpDexs (message : Bytes) : Conversions PerpDexsResponse :=
  parseDocument document {} message fun doc => do
    ((← doc.getArray).drop 1).forM fun entry => do
      let dex ← within (← entry.getObject) parsePerpDex
      modifyThe PerpDexsResponse fun response => { response with dexes := response.dexes ++ [dex] }

def parseFlatAssetMeta (fields : Object) : Decoder ρ AssetMeta :=
  fields.foldlM (fun asset (key, value) => do
    if key.unescaped = utf8 "name" then return { asset with name := ← value.getString }
    else if key.unescaped = utf8 "szDecimals" then
      return { asset with szDecimals := some (← getInt value) }
    else if key.unescaped = utf8 "maxLeverage" then
      return { asset with maxLeverage := some (← getInt value) }
    else return asset) {}

def parseMarginTier : Decoder ρ MarginTier := do
  let lowerBound ← doubleField "lowerBound"
  let maxLeverage ← intField "maxLeverage"
  return { lowerBound, maxLeverage }

/-- The description and the tiers of a margin table. -/
def parseMarginTable : Decoder ρ (Bytes × List MarginTier) := do
  let description ← stringField "description"
  let marginTiers ← (← arrayField "marginTiers").mapM fun tier => do
    within (← tier.getObject) parseMarginTier
  return (description, marginTiers)

def parsePerpDexMeta : Decoder ρ PerpDexMeta := do
  let «universe» ← (← arrayField "universe").mapM fun asset => do
    parseFlatAssetMeta (← asset.getObject)
  let tables ← ((← optionalField Value.getArray "marginTables").getD []).filterMapM
    (parsePair getInt fun table => do within (← table.getObject) parseMarginTable)
  let marginTables := tables.map fun (id, description, marginTiers) =>
    { id, description, marginTiers }
  let collateralToken ← (← presentField "collateralToken").mapM fun value => liftM (getInt value)
  return { «universe», marginTables, collateralToken := collateralToken.getD 0 }

def parseAllPerpMetas (message : Bytes) : Conversions AllPerpMetasResponse :=
  parseDocument document {} message fun doc => do
    (← doc.getArray).forM fun entry => do
      let dexMeta ← within (← entry.getObject) parsePerpDexMeta
      modifyThe AllPerpMetasResponse fun response =>
        { response with dexMetas := response.dexMetas ++ [dexMeta] }

/-- A document that is a list of strings. -/
def stringsOf (doc : Value) : Decoder (List Bytes) Unit := do
  (← doc.getArray).forM fun entry => do
    let text ← entry.getString
    modifyThe (List Bytes) fun texts => texts ++ [text]

def parsePerpsAtOpenInterestCap (message : Bytes) :
    Conversions PerpsAtOpenInterestCapResponse :=
  PerpsAtOpenInterestCapResponse.mk <$> parseDocument document [] message stringsOf

def parseFundingVenue : Decoder ρ (Option Double × Option UInt64) := do
  let fundingRate ← (← presentField "fundingRate").mapM toNumber
  let nextFundingTime ← (← presentField "nextFundingTime").mapM fun value =>
    liftM value.getUInt64
  return (fundingRate, nextFundingTime)

/-- A venue without funding data stands alone or with null. -/
def parsePredictedFundingVenue (entry : Value) : Decoder ρ (Option PredictedFundingVenue) := do
  match ← entry.getArray with
  | [] => return none
  | first :: rest =>
      let venue ← first.getString
      match rest with
      | [] => return some { venue }
      | second :: _ =>
          if second.isNull then return some { venue }
          else
            let (fundingRate, nextFundingTime) ← within (← second.getObject) parseFundingVenue
            return some { venue, fundingRate, nextFundingTime }

def parsePredictedFundings (message : Bytes) : Conversions PredictedFundingsResponse :=
  parseDocument document {} message fun doc => do
    (← doc.getArray).forM fun entry => do
      let parsed ← parsePair Value.getString
        (fun venues => do (← venues.getArray).filterMapM parsePredictedFundingVenue) entry
      match parsed with
      | none => return
      | some (coin, venues) =>
          modifyThe PredictedFundingsResponse fun response =>
            { response with fundings := response.fundings ++ [{ coin, venues }] }

def parseFundingHistoryEntry : Decoder ρ FundingHistoryEntry := do
  let coin ← stringField "coin"
  let fundingRate ← parseNumberField "fundingRate"
  let premium ← parseNumberField "premium"
  let time ← uint64Field "time"
  return { coin, fundingRate, premium, time }

def parseFundingHistory (message : Bytes) : Conversions FundingHistoryResponse :=
  parseDocument document {} message fun doc => do
    (← doc.getArray).forM fun entry => do
      let historyEntry ← within (← entry.getObject) parseFundingHistoryEntry
      modifyThe FundingHistoryResponse fun response =>
        { response with history := response.history ++ [historyEntry] }

def parsePerpAnnotation (message : Bytes) : Conversions PerpAnnotationResponse :=
  parseDocument document {} message fun doc => do
    if doc.isNull then return
    else
      within (← doc.getObject) do
        let category ← stringField "category"
        modifyThe PerpAnnotationResponse fun response => { response with category }
        let description ← stringField "description"
        modifyThe PerpAnnotationResponse fun response => { response with description }

def parsePerpCategories (message : Bytes) : Conversions PerpCategoriesResponse :=
  parseDocument document {} message fun doc => do
    (← doc.getArray).forM fun entry => do
      match ← parsePair Value.getString (fun value => liftM value.getString) entry with
      | none => return
      | some (coin, category) =>
          modifyThe PerpCategoriesResponse fun response =>
            { response with categories := response.categories ++ [{ coin, category }] }

/-- The category and the keywords of a coin. -/
def parsePerpConciseAnnotation : Decoder ρ (Bytes × List Bytes) := do
  let category ← stringField "category"
  let keywords ← ((← optionalField Value.getArray "keywords").getD []).mapM fun keyword =>
    liftM keyword.getString
  return (category, keywords)

def parsePerpConciseAnnotations (message : Bytes) :
    Conversions PerpConciseAnnotationsResponse :=
  parseDocument document {} message fun doc => do
    (← doc.getArray).forM fun entry => do
      let parsed ← parsePair Value.getString
        (fun value => do within (← value.getObject) parsePerpConciseAnnotation) entry
      match parsed with
      | none => return
      | some (coin, category, keywords) =>
          modifyThe PerpConciseAnnotationsResponse fun response =>
            { response with annotations := response.annotations ++ [{ coin, category, keywords }] }

def parsePerpDexLimits (message : Bytes) : Conversions PerpDexLimitsResponse :=
  parseDocument document {} message fun doc => do
    if doc.isNull then return
    else
      within (← doc.getObject) do
        modifyThe PerpDexLimitsResponse fun response => { response with «exists» := true }
        let totalOiCap ← parseNumberField "totalOiCap"
        modifyThe PerpDexLimitsResponse fun response => { response with totalOiCap }
        let oiSzCapPerPerp ← parseNumberField "oiSzCapPerPerp"
        modifyThe PerpDexLimitsResponse fun response => { response with oiSzCapPerPerp }
        let maxTransferNtl ← parseNumberField "maxTransferNtl"
        modifyThe PerpDexLimitsResponse fun response => { response with maxTransferNtl }
        (← arrayField "coinToOiCap").forM fun entry => do
          match ← parsePair Value.getString doubleOf entry with
          | none => return
          | some (coin, oiCap) =>
              modifyThe PerpDexLimitsResponse fun response =>
                { response with coinToOiCap := response.coinToOiCap ++ [{ coin, oiCap }] }

def parsePerpDexStatus (message : Bytes) : Conversions PerpDexStatusResponse :=
  parseDocument document {} message fun doc => do
    if doc.isNull then return
    else
      within (← doc.getObject) do
        modifyThe PerpDexStatusResponse fun response => { response with «exists» := true }
        let totalNetDeposit ← parseNumberField "totalNetDeposit"
        modifyThe PerpDexStatusResponse fun response => { response with totalNetDeposit }

/-- The two optional prices of a gas auction. -/
def gasField (key : String) : Decoder ρ (Option Double) := do
  (← presentField key).mapM doubleOf

def parsePerpDeployAuctionStatus (message : Bytes) :
    Conversions PerpDeployAuctionStatusResponse :=
  parseDocument document {} message fun doc => do
    within (← doc.getObject) do
      let startTimeSeconds ← uint64Field "startTimeSeconds"
      modifyThe PerpDeployAuctionStatusResponse fun response => { response with startTimeSeconds }
      let durationSeconds ← uint64Field "durationSeconds"
      modifyThe PerpDeployAuctionStatusResponse fun response => { response with durationSeconds }
      let startGas ← parseNumberField "startGas"
      modifyThe PerpDeployAuctionStatusResponse fun response => { response with startGas }
      let currentGas ← gasField "currentGas"
      modifyThe PerpDeployAuctionStatusResponse fun response => { response with currentGas }
      let endGas ← gasField "endGas"
      modifyThe PerpDeployAuctionStatusResponse fun response => { response with endGas }

/-! ## Spot -/

def parseEvmContract : Decoder ρ EvmContract := do
  let address ← stringField "address"
  let evm_extra_wei_decimals ← intField "evm_extra_wei_decimals"
  return { address, evm_extra_wei_decimals }

def parseSpotAssetMeta : Decoder ρ SpotAssetMeta := do
  let name ← stringField "name"
  let szDecimals ← intField "szDecimals"
  let weiDecimals ← intField "weiDecimals"
  let index ← intField "index"
  let tokenId ← stringField "tokenId"
  let isCanonical ← boolField "isCanonical"
  let evmContract ← (← presentField "evmContract").mapM fun value => do
    within (← value.getObject) parseEvmContract
  let fullName ← (← presentField "fullName").mapM fun value => liftM value.getString
  return { name, szDecimals, weiDecimals, index, tokenId, isCanonical, evmContract, fullName }

def parseSpotMeta (message : Bytes) : Conversions SpotMetaResponse :=
  parseDocument document {} message fun doc => do
    within (← doc.getObject) do
      (← arrayField "tokens").forM fun entry => do
        let token ← within (← entry.getObject) parseSpotAssetMeta
        modifyThe SpotMetaResponse fun response =>
          { response with tokens := response.tokens ++ [token] }

def parseSpotUniversePair : Decoder ρ SpotUniversePair := do
  let name ← stringField "name"
  let tokens ← (← arrayField "tokens").mapM fun token => liftM (getInt token)
  let index ← intField "index"
  let isCanonical ← boolField "isCanonical"
  return { name, tokens, index, isCanonical }

def parseSpotAssetCtx (coin : Bytes) : Decoder ρ SpotAssetCtx := do
  let dayNtlVlm ← parseNumberField "dayNtlVlm"
  let prevDayPx ← parseNumberField "prevDayPx"
  let markPx ← parseNumberField "markPx"
  let (hasMidPx, midPx) ← parseMidPx
  let circulatingSupply ← (← presentField "circulatingSupply").mapM toNumber
  return { coin, dayNtlVlm, prevDayPx, markPx, midPx, hasMidPx,
           circulatingSupply := circulatingSupply.getD .zero }

def parseSpotMetaAndAssetCtxs (message : Bytes) : Conversions SpotMetaAndAssetCtxsResponse :=
  parseDocument document {} message fun doc => do
    match ← doc.getArray with
    | [] => return
    | metaValue :: rest =>
        within (← metaValue.getObject) do
          (← arrayField "tokens").forM fun entry => do
            let token ← within (← entry.getObject) parseSpotAssetMeta
            modifyThe SpotMetaAndAssetCtxsResponse fun response =>
              { response with «meta».tokens := response.«meta».tokens ++ [token] }
          (← arrayField "universe").forM fun entry => do
            let pair ← within (← entry.getObject) parseSpotUniversePair
            modifyThe SpotMetaAndAssetCtxsResponse fun response =>
              { response with «meta».«universe» := response.«meta».universe ++ [pair] }
        match rest with
        | [] => return
        | ctxs :: _ =>
            (← ctxs.getArray).zipIdx.forM fun (entry, idx) => do
              let object ← entry.getObject
              let «universe» := (← getThe SpotMetaAndAssetCtxsResponse).«meta».universe
              let coin := ((«universe»[idx]?).map SpotUniversePair.name).getD []
              let ctx ← within object (parseSpotAssetCtx coin)
              modifyThe SpotMetaAndAssetCtxsResponse fun response =>
                { response with assetCtxs := response.assetCtxs ++ [ctx] }

def parseSpotPairDeployAuctionStatusObj : Decoder ρ SpotPairDeployAuctionStatusResponse := do
  let startTimeSeconds ← uint64Field "startTimeSeconds"
  let durationSeconds ← uint64Field "durationSeconds"
  let startGas ← parseNumberField "startGas"
  let currentGas ← gasField "currentGas"
  let endGas ← gasField "endGas"
  return { startTimeSeconds, durationSeconds, startGas, currentGas, endGas }

def parseSpotPairDeployAuctionStatus (message : Bytes) :
    Conversions SpotPairDeployAuctionStatusResponse :=
  parseDocument document {} message fun doc => do
    let status ← within (← doc.getObject) parseSpotPairDeployAuctionStatusObj
    set status

def parseTokenSpec : Decoder ρ SpotDeployStateTokenSpec := do
  let name ← stringField "name"
  let szDecimals ← intField "szDecimals"
  let weiDecimals ← intField "weiDecimals"
  return { name, szDecimals, weiDecimals }

def parseSpotDeployStateEntry : Decoder ρ SpotDeployStateEntry := do
  let token ← intField "token"
  let spec ← within (← objectField "spec") parseTokenSpec
  let fullName ← (← presentField "fullName").mapM fun value => liftM value.getString
  let deployerTradingFeeShare ← parseNumberField "deployerTradingFeeShare"
  let spots ← (← arrayField "spots").mapM fun spot => liftM (getInt spot)
  let maxSupply ← (← presentField "maxSupply").mapM doubleOf
  let hyperliquidityGenesisBalance ← parseNumberField "hyperliquidityGenesisBalance"
  let totalGenesisBalanceWei ← parseNumberField "totalGenesisBalanceWei"
  let userPairs ← (← arrayField "userGenesisBalances").filterMapM
    (parsePair Value.getString doubleOf)
  let existingPairs ← (← arrayField "existingTokenGenesisBalances").filterMapM
    (parsePair getInt doubleOf)
  let blacklistUsers ← ((← optionalField Value.getArray "blacklistUsers").getD []).mapM
    fun user => liftM user.getString
  return { token, spec, fullName, deployerTradingFeeShare, spots, maxSupply,
           hyperliquidityGenesisBalance, totalGenesisBalanceWei,
           userGenesisBalances := userPairs.map fun (address, balance) => { address, balance },
           existingTokenGenesisBalances :=
             existingPairs.map fun (token, balance) => { token, balance },
           blacklistUsers }

def parseSpotDeployState (message : Bytes) : Conversions SpotDeployStateResponse :=
  parseDocument document {} message fun doc => do
    within (← doc.getObject) do
      (← arrayField "states").forM fun entry => do
        let state ← within (← entry.getObject) parseSpotDeployStateEntry
        modifyThe SpotDeployStateResponse fun response =>
          { response with states := response.states ++ [state] }
      let gasAuction ← within (← objectField "gasAuction") parseSpotPairDeployAuctionStatusObj
      modifyThe SpotDeployStateResponse fun response => { response with gasAuction }

/-! ## Books, candles and the exchange -/

def parseRestBookLevel : Decoder ρ RestBookLevel := do
  let px ← stringField "px"
  let sz ← stringField "sz"
  let n ← intField "n"
  return { px, sz, n }

/-- A side after the second one ends the loop. -/
def parseL2Book (message : Bytes) : Conversions L2BookResponse :=
  parseDocument document {} message fun doc => do
    within (← doc.getObject) do
      let coin ← stringField "coin"
      modifyThe L2BookResponse fun response => { response with coin }
      let time ← uint64Field "time"
      modifyThe L2BookResponse fun response => { response with time }
      ((← arrayField "levels").take 2).zipIdx.forM fun (side, sideIdx) => do
        (← side.getArray).forM fun entry => do
          let level ← within (← entry.getObject) parseRestBookLevel
          modifyThe L2BookResponse fun response =>
            if sideIdx = 0 then { response with bids := response.bids ++ [level] }
            else { response with asks := response.asks ++ [level] }

def parseCandle : Decoder ρ Candle := do
  let coin ← stringField "s"
  let interval ← stringField "i"
  let openTime ← uint64Field "t"
  let closeTime ← uint64Field "T"
  let «open» ← parseNumberField "o"
  let close ← parseNumberField "c"
  let high ← parseNumberField "h"
  let low ← parseNumberField "l"
  let volume ← parseNumberField "v"
  let numTrades ← intField "n"
  return { coin, interval, openTime, closeTime, «open», close, high, low, volume, numTrades }

def parseCandleSnapshot (message : Bytes) : Conversions CandleSnapshotResponse :=
  parseDocument document {} message fun doc => do
    (← doc.getArray).forM fun entry => do
      let candle ← within (← entry.getObject) parseCandle
      modifyThe CandleSnapshotResponse fun response =>
        { response with candles := response.candles ++ [candle] }

def parseRecentTrade : Decoder ρ RecentTrade := do
  let coin ← stringField "coin"
  let side ← sideField "side"
  let px ← doubleField "px"
  let sz ← doubleField "sz"
  let time ← uint64Field "time"
  let hash ← stringField "hash"
  let tid ← uint64Field "tid"
  let users ← firstTwo Value.getString [] (← arrayField "users")
  return { coin, side, px, sz, time, hash, tid, users }

def parseRecentTrades (message : Bytes) : Conversions RecentTradesResponse :=
  parseDocument document {} message fun doc => do
    (← doc.getArray).forM fun entry => do
      let trade ← within (← entry.getObject) parseRecentTrade
      modifyThe RecentTradesResponse fun response =>
        { response with trades := response.trades ++ [trade] }

def parseAllMids (message : Bytes) : Conversions AllMidsResponse :=
  parseDocument document {} message fun doc => do
    (← doc.getObject).forM fun (key, value) => do
      let mid ← doubleOf value
      modifyThe AllMidsResponse fun response =>
        { response with mids := response.mids ++ [{ coin := key.unescaped, mid }] }

def parseExchangeStatus (message : Bytes) : Conversions ExchangeStatusResponse :=
  parseDocument document {} message fun doc => do
    within (← doc.getObject) do
      match ← presentField "specialStatuses" with
      | none => pure ()
      | some statuses =>
          (← statuses.getArray).forM fun entry => do
            let status ← entry.getString
            modifyThe ExchangeStatusResponse fun response =>
              { response with specialStatuses := response.specialStatuses ++ [status] }
      let time ← uint64Field "time"
      modifyThe ExchangeStatusResponse fun response => { response with time }

end HyperliquidSdk.Rest
