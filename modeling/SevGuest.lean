import SevGuest.Rust
import SevGuest.Bincode
import SevGuest.Bitfield
import SevGuest.Error
import SevGuest.Snp.Bitfields
import SevGuest.Snp.Setters
import SevGuest.Snp.Attestable
import SevGuest.Snp.ReportV2
import SevGuest.Snp.ReportV3
import SevGuest.Snp.Report
import SevGuest.Snp.Display
import SevGuest.Snp.Verify
import SevGuest.Linux.Types
