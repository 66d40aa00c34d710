import AgentId.HalfEven
import AgentId.Raises
import AgentId.Py
import AgentId.Dict
import AgentId.Positional
import AgentId.Base58
import AgentId.Json
import AgentId.CanonicalText
import AgentId.Normalization
import AgentId.JsonRender
import AgentId.CanonicalEquivalence
import AgentId.Signing
import AgentId.TsCanonical
import AgentId.TsSigning
import AgentId.Utf16
import AgentId.JsonText
import AgentId.Serde
import AgentId.IsoText
import AgentId.SignedText
import AgentId.Possession
import AgentId.SingleUse
import AgentId.ChallengeStore
import AgentId.Delegation
import AgentId.ChainVerdict
import AgentId.Revocation
import AgentId.WireForm
import AgentId.OwnerRecall
import AgentId.RecallTampering
import AgentId.Feed
import AgentId.RevocationRuns
import AgentId.RegistryRestarts
import AgentId.Device
import AgentId.FeedSync
import AgentId.FeedSchedule
import AgentId.PrefixLog
import AgentId.Rotation
import AgentId.RotationText
import AgentId.RotationWire
import AgentId.TsTimestamp
import AgentId.TsDelegation
import AgentId.Card
import AgentId.TsCard
import AgentId.CardVerdict
import AgentId.TsWire
import AgentId.CardWire
import AgentId.ArtifactWire
import AgentId.CardCopy
import AgentId.RotationRegistry
import AgentId.RotationGossip
import AgentId.RotationSnapshot
import AgentId.HonestHistory
import AgentId.KeyTheft
import AgentId.Decimal
import AgentId.Spend
import AgentId.SpendAuthority
import AgentId.SpendCaps
import AgentId.TokenLanguage
import AgentId.SpendGrammar
import AgentId.SpendRender
import AgentId.TsSpend
import AgentId.SpendComposition
import AgentId.RotationVerdict
import AgentId.RotationRuns
import AgentId.RotatingIdentity
import AgentId.HostileInput
import AgentId.Did
import AgentId.TsDate
import AgentId.TsDigest
import AgentId.TsSpendCaps
import AgentId.TsBase64
import AgentId.TsBase58
import AgentId.KeyFile
import AgentId.TsRotationRegistry
import AgentId.TsRecall
import AgentId.AuthorityRuns
import AgentId.TsChallengeStore
import AgentId.TsHistory
import AgentId.TsChainWire
import AgentId.TsKeyFile
import AgentId.RotationEvidence
import AgentId.AuthorityRelay
import AgentId.TsDid
import AgentId.GrantReading
