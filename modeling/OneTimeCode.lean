import OneTimeCode.Failure
import OneTimeCode.Generator
import OneTimeCode.Json.Printer
import OneTimeCode.Json.Reader
import OneTimeCode.Log.Event
import OneTimeCode.Log.Filter
import OneTimeCode.Main
import OneTimeCode.Scheduler
import OneTimeCode.Settings
import OneTimeCode.Store.Migration.Tool
import OneTimeCode.Time.Clock
import OneTimeCode.Voucher.Format
import OneTimeCode.Voucher.Draft
import OneTimeCode.Url
import OneTimeCode.Url.Percent
import OneTimeCode.Intent
import OneTimeCode.Proofs.Residents
import OneTimeCode.Proofs.Collections
import OneTimeCode.Proofs.RowEncoding
import OneTimeCode.Proofs.Journal
import OneTimeCode.Proofs.StandingVouchers
import OneTimeCode.Proofs.BackendAgreement
import OneTimeCode.Proofs.SweepTransparency
import OneTimeCode.Proofs.Interleaving
import OneTimeCode.Proofs.RowConservation
import OneTimeCode.Proofs.ZoneIsolation
import OneTimeCode.Proofs.Refusals
import OneTimeCode.Proofs.Linearization
import OneTimeCode.Proofs.VoucherFormat
import OneTimeCode.Proofs.SchedulerTurns
import OneTimeCode.Proofs.SweepTimes
import OneTimeCode.Proofs.LateSweeps
import OneTimeCode.Proofs.UnreadableRows
import OneTimeCode.Proofs.IssuedExpiries
import OneTimeCode.Proofs.FailedRedeemings
import OneTimeCode.Proofs.Revocations
import OneTimeCode.Proofs.MemoryBalance
import OneTimeCode.Proofs.IntentTags
import OneTimeCode.Proofs.SettingsLoading
import OneTimeCode.Proofs.ClockReadings
import OneTimeCode.Proofs.WholeCeiling
