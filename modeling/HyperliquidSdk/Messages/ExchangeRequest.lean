import HyperliquidSdk.Messages.ExchangeRequestBuilder

/-!
# The exchange methods

One constructor for each exchange method of `RestApi` and `WebsocketApi`, with its
arguments. The two classes send the same endpoint type and the same built body.
-/

set_option autoImplicit false

namespace HyperliquidSdk.Messages

open Foundation

inductive ExchangeRequest where
  | placeOrder (orders : List OrderRequest) (grouping : Grouping) (builder : Option Builder)
  | cancelOrder (cancels : List CancelRequest)
  | cancelOrderByCloid (cancels : List CancelByCloidRequest)
  | scheduleCancel (time : Option UInt64)
  | modifyOrder (modify : ModifyRequest)
  | batchModifyOrder (modifies : List ModifyRequest)
  | updateLeverage (request : UpdateLeverageRequest)
  | updateIsolatedMargin (request : UpdateIsolatedMarginRequest)
  | approveAgent (request : ApproveAgentRequest)
  | agentSetAbstraction (abstraction : UserAbstractionMode)
  | twapOrder (request : TwapOrderRequest)
  | twapCancel (request : TwapCancelRequest)
  | vaultTransfer (request : VaultTransferRequest)
  | hip3LiquidatorTransfer (request : Hip3LiquidatorTransferRequest)
  | createSubAccount (request : CreateSubAccountRequest)
  | subAccountTransfer (request : SubAccountTransferRequest)
  | createVault (request : CreateVaultRequest)
  | borrowLend (request : BorrowLendRequest)
  | spotDeployRegisterToken2 (request : SpotDeployRegisterToken2Request)
  | spotDeployUserGenesis (request : SpotDeployUserGenesisRequest)
  | spotDeployGenesis (request : SpotDeployGenesisRequest)
  | spotDeployRegisterSpot (request : SpotDeployRegisterSpotRequest)
  | spotDeployRegisterHyperliquidity (request : SpotDeployRegisterHyperliquidityRequest)
  | perpDeployRegisterAsset2 (request : PerpDeployRegisterAsset2Request)
  | usdClassTransfer (request : UsdClassTransferRequest)
  | sendAsset (request : SendAssetRequest)
  | usdSend (request : UsdSendRequest)
  | spotSend (request : SpotSendRequest)
  | withdraw3 (request : Withdraw3Request)
  | approveBuilderFee (request : ApproveBuilderFeeRequest)
  | userSetAbstraction (request : UserSetAbstractionRequest)
  | setReferrer (request : SetReferrerRequest)
  | cDeposit (wei : UInt64)
  | cWithdraw (wei : UInt64)
  | tokenDelegate (request : TokenDelegateRequest)
  | sendToEvmWithData (request : SendToEvmWithDataRequest)
  | userDexAbstraction (request : UserDexAbstractionRequest)
  | userPortfolioMargin (request : UserPortfolioMarginRequest)
  | agentSendAsset (request : AgentSendAssetRequest)
  | reserveRequestWeight (request : ReserveRequestWeightRequest)
  | noop

namespace ExchangeRequest

def endpoint : ExchangeRequest → RestEndpointType
  | .placeOrder _ _ _ => .placeOrder
  | .cancelOrder _ => .cancelOrder
  | .cancelOrderByCloid _ => .cancelOrderByCloid
  | .scheduleCancel _ => .scheduleCancel
  | .modifyOrder _ => .modifyOrder
  | .batchModifyOrder _ => .batchModifyOrder
  | .updateLeverage _ => .updateLeverage
  | .updateIsolatedMargin _ => .updateIsolatedMargin
  | .approveAgent _ => .approveAgent
  | .agentSetAbstraction _ => .agentSetAbstraction
  | .twapOrder _ => .twapOrder
  | .twapCancel _ => .twapCancel
  | .vaultTransfer _ => .vaultTransfer
  | .hip3LiquidatorTransfer _ => .hip3LiquidatorTransfer
  | .createSubAccount _ => .createSubAccount
  | .subAccountTransfer _ => .subAccountTransfer
  | .createVault _ => .createVault
  | .borrowLend _ => .borrowLend
  | .spotDeployRegisterToken2 _ => .spotDeployRegisterToken2
  | .spotDeployUserGenesis _ => .spotDeployUserGenesis
  | .spotDeployGenesis _ => .spotDeployGenesis
  | .spotDeployRegisterSpot _ => .spotDeployRegisterSpot
  | .spotDeployRegisterHyperliquidity _ => .spotDeployRegisterHyperliquidity
  | .perpDeployRegisterAsset2 _ => .perpDeployRegisterAsset2
  | .usdClassTransfer _ => .usdClassTransfer
  | .sendAsset _ => .sendAsset
  | .usdSend _ => .usdSend
  | .spotSend _ => .spotSend
  | .withdraw3 _ => .withdraw3
  | .approveBuilderFee _ => .approveBuilderFee
  | .userSetAbstraction _ => .userSetAbstraction
  | .setReferrer _ => .setReferrer
  | .cDeposit _ => .cDeposit
  | .cWithdraw _ => .cWithdraw
  | .tokenDelegate _ => .tokenDelegate
  | .sendToEvmWithData _ => .sendToEvmWithData
  | .userDexAbstraction _ => .userDexAbstraction
  | .userPortfolioMargin _ => .userPortfolioMargin
  | .agentSendAsset _ => .agentSendAsset
  | .reserveRequestWeight _ => .reserveRequestWeight
  | .noop => .noop

def build (symbolMap : SymbolMap) : ExchangeRequest → Result Json
  | .placeOrder orders grouping builder => Messages.placeOrder symbolMap orders grouping builder
  | .cancelOrder cancels => Messages.cancelOrder symbolMap cancels
  | .cancelOrderByCloid cancels => Messages.cancelOrderByCloid symbolMap cancels
  | .scheduleCancel time => .ok (Messages.scheduleCancel time)
  | .modifyOrder modify => Messages.modifyOrder symbolMap modify
  | .batchModifyOrder modifies => Messages.batchModifyOrder symbolMap modifies
  | .updateLeverage request => Messages.updateLeverage symbolMap request
  | .updateIsolatedMargin request => Messages.updateIsolatedMargin symbolMap request
  | .approveAgent request => .ok (Messages.approveAgent request)
  | .agentSetAbstraction abstraction => .ok (Messages.agentSetAbstraction abstraction)
  | .twapOrder request => Messages.twapOrder symbolMap request
  | .twapCancel request => Messages.twapCancel symbolMap request
  | .vaultTransfer request => .ok (Messages.vaultTransfer request)
  | .hip3LiquidatorTransfer request => .ok (Messages.hip3LiquidatorTransfer request)
  | .createSubAccount request => .ok (Messages.createSubAccount request)
  | .subAccountTransfer request => .ok (Messages.subAccountTransfer request)
  | .createVault request => .ok (Messages.createVault request)
  | .borrowLend request => Messages.borrowLend request
  | .spotDeployRegisterToken2 request => .ok (Messages.spotDeployRegisterToken2 request)
  | .spotDeployUserGenesis request => Messages.spotDeployUserGenesis request
  | .spotDeployGenesis request => Messages.spotDeployGenesis request
  | .spotDeployRegisterSpot request => .ok (Messages.spotDeployRegisterSpot request)
  | .spotDeployRegisterHyperliquidity request => Messages.spotDeployRegisterHyperliquidity request
  | .perpDeployRegisterAsset2 request => Messages.perpDeployRegisterAsset2 request
  | .usdClassTransfer request => Messages.usdClassTransfer request
  | .sendAsset request => Messages.sendAsset request
  | .usdSend request => Messages.usdSend request
  | .spotSend request => Messages.spotSend request
  | .withdraw3 request => Messages.withdraw3 request
  | .approveBuilderFee request => .ok (Messages.approveBuilderFee request)
  | .userSetAbstraction request => .ok (Messages.userSetAbstraction request)
  | .setReferrer request => .ok (Messages.setReferrer request)
  | .cDeposit wei => .ok (Messages.cDeposit wei)
  | .cWithdraw wei => .ok (Messages.cWithdraw wei)
  | .tokenDelegate request => .ok (Messages.tokenDelegate request)
  | .sendToEvmWithData request => .ok (Messages.sendToEvmWithData request)
  | .userDexAbstraction request => .ok (Messages.userDexAbstraction request)
  | .userPortfolioMargin request => .ok (Messages.userPortfolioMargin request)
  | .agentSendAsset request => .ok (Messages.agentSendAsset request)
  | .reserveRequestWeight request => .ok (Messages.reserveRequestWeight request)
  | .noop => .ok Messages.noop

/-- Does the method have a `vaultAddress` parameter? -/
def takesVaultAddress : ExchangeRequest → Bool
  | .placeOrder _ _ _ | .cancelOrder _ | .cancelOrderByCloid _ | .scheduleCancel _
  | .modifyOrder _ | .batchModifyOrder _ | .updateLeverage _ | .updateIsolatedMargin _
  | .agentSetAbstraction _ | .twapOrder _ | .twapCancel _ | .agentSendAsset _
  | .reserveRequestWeight _ | .noop => true
  | _ => false

theorem endpoint_isAuthenticated (request : ExchangeRequest) :
    request.endpoint.isAuthenticated = true := by
  cases request <;> rfl

/-- What the computation returns is the body of an action. -/
def BuildsBody (computation : Result Json) : Prop :=
  ∀ built, computation = .ok built → ∃ action, built = body action

theorem buildsBody_ok (action : List (String × Json)) : BuildsBody (.ok (body action)) :=
  fun _ returned => ⟨action, (Except.ok.inj returned).symm⟩

theorem buildsBody_bind {α : Type} {computation : Result α} {next : α → Result Json}
    (builds : ∀ value, BuildsBody (next value)) : BuildsBody (computation >>= next) := by
  intro built returned
  obtain ⟨value, -, continued⟩ := bind_eq_ok returned
  exact builds value built continued

/-- Every builder returns an object with the action as its only member. -/
theorem buildsBody_build (request : ExchangeRequest) (symbolMap : SymbolMap) :
    BuildsBody (request.build symbolMap) := by
  cases request <;> repeat' (first | exact buildsBody_ok _ | refine buildsBody_bind fun _ => ?_)

end ExchangeRequest

end HyperliquidSdk.Messages
