import SeamsWallet.Authorization.Quotas
import SeamsWallet.Circuit.Liveness
import SeamsWallet.DeviceLinking.ProofNonces
import SeamsWallet.DeviceLinking.SessionListing
import SeamsWallet.Ecdsa.BitRows
import SeamsWallet.Ecdsa.PresignCodecExact
import SeamsWallet.Ecdsa.PresignOrder
import SeamsWallet.Ecdsa.RoleDerivation
import SeamsWallet.Ecdsa.Signing
import SeamsWallet.Ecdsa.TripleFinalization
import SeamsWallet.EcdsaPool.Cas
import SeamsWallet.EcdsaPool.OneUse
import SeamsWallet.EcdsaStore.ClaimedOnce
import SeamsWallet.Ed25519.TwoPartySigning
import SeamsWallet.EmailOtp.Attempts
import SeamsWallet.LinkedEcdsa.Shares
import SeamsWallet.Nonce.Exclusive
import SeamsWallet.Nonce.LaneLock
import SeamsWallet.Nonce.NearFetchSettled
import SeamsWallet.Nonce.NearReservation
import SeamsWallet.Recovery.Opening
import SeamsWallet.Round1Store.NoncesOnce
import SeamsWallet.SessionSeal.Authorized
import SeamsWallet.SessionSeal.RateLimiter
import SeamsWallet.TenantRoot.Projection
import SeamsWallet.ThresholdPrf.ClientAgreement
import SeamsWallet.ThresholdPrf.RoleTargets
import SeamsWallet.Yao.PairLifecycle
import SeamsWallet.Yao.TransferCorrect
