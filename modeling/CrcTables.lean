import CrcTables.Checksum.Bank
import CrcTables.Main
import CrcTables.Proofs.Checksum.Buffer
import CrcTables.Proofs.Checksum.Bursts
import CrcTables.Proofs.Checksum.Division
import CrcTables.Proofs.Checksum.Ledger
import CrcTables.Proofs.Checksum.Residue
import CrcTables.Proofs.Checksum.Serial
import CrcTables.Proofs.Command.Agreement
import CrcTables.Proofs.Command.Reports
import CrcTables.Proofs.Generator.Spelling
import CrcTables.Proofs.Listing.Grammar
import CrcTables.Proofs.Listing.Tampering
import CrcTables.Proofs.Listing.Verdict
import CrcTables.Proofs.Listing.Locality
import CrcTables.Proofs.Listing.Tokens
import CrcTables.Proofs.Listing.Initializer
import CrcTables.Proofs.Listing.Relayout
import CrcTables.Proofs.Listing.Endings
import CrcTables.Proofs.Listing.Leading
import CrcTables.Proofs.Listing.Truncation
import CrcTables.Proofs.Listing.Turns
import CrcTables.Proofs.Table.Comparison
