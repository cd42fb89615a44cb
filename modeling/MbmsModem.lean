import MbmsModem.Basic
import MbmsModem.Classifier
import MbmsModem.Schedule
import MbmsModem.Decision
import MbmsModem.Rank
import MbmsModem.Windows
import MbmsModem.Tmgi
import MbmsModem.Registry
import MbmsModem.Acquisition
import MbmsModem.Machine
import MbmsModem.Lifecycle
import MbmsModem.Report
