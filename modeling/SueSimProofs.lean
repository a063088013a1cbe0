import SueSimProofs.Frame.Cell
import SueSimProofs.LoadBalance.Table
import SueSimProofs.LoadBalance.Stats
import SueSimProofs.LoadBalance.Metrics
import SueSimProofs.LoadBalance.Fairness
import SueSimProofs.LoadBalance.Plots
import SueSimProofs.Loss.Scan
import SueSimProofs.Loss.Analyzer
import SueSimProofs.Layout.Subplots
import SueSimProofs.Delay.Statistics
import SueSimProofs.Device.MacMap
import SueSimProofs.Buffer.Summary
import SueSimProofs.Throughput.Tables
import SueSimProofs.Delay.PerXpu
import SueSimProofs.LoadBalance.Report
import SueSimProofs.Loss.DefaultLog
import SueSimProofs.Credit.Statistics
import SueSimProofs.Buffer.Heatmap
