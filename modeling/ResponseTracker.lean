import ResponseTracker.Std.Execution
import ResponseTracker.Std.Gregorian
import ResponseTracker.Std.Window
import ResponseTracker.Std.Transaction
import ResponseTracker.Std.RowTable
import ResponseTracker.Foundation.TimeZone
import ResponseTracker.Foundation.Device
import ResponseTracker.Foundation.UserDefaults
import ResponseTracker.Utils.DateExt
import ResponseTracker.Utils.PeriodBoundary
import ResponseTracker.Models.Points
import ResponseTracker.Models.Emergency
import ResponseTracker.Realm.Tables
import ResponseTracker.DataSource.DataManager
import ResponseTracker.DataSource.Tally
import ResponseTracker.DataSource.MonthWindows
import ResponseTracker.DataSource.Mutations
import ResponseTracker.DataSource.Failure
import ResponseTracker.DataSource.Ownership
import ResponseTracker.DataSource.UniqueTypes
import ResponseTracker.ViewControllers.PointsViewController
import ResponseTracker.Std.Csv
import ResponseTracker.DataSource.Export
import ResponseTracker.DataSource.ExportReading
import ResponseTracker.DataSource.ExportCoverage
import ResponseTracker.DataSource.Clock
import ResponseTracker.DataSource.Reset
import ResponseTracker.DataSource.Frame
import ResponseTracker.DataSource.Overflow
import ResponseTracker.DataSource.ExportGrants
import ResponseTracker.ViewControllers.PointsOverflow
import ResponseTracker.DataSource.LastResponse
import ResponseTracker.ViewControllers.ResponseDetailsViewController
import ResponseTracker.Std.Ranking
import ResponseTracker.ViewControllers.EmergencyViewController
import ResponseTracker.Std.Simulation
import ResponseTracker.DataSource.Recovery
import ResponseTracker.Std.Book
import ResponseTracker.DataSource.EmergencyBook
import ResponseTracker.DataSource.Figures
import ResponseTracker.ViewControllers.App
import ResponseTracker.ViewControllers.AppSteps
import ResponseTracker.ViewControllers.AppRequests
import ResponseTracker.ViewControllers.AppRuns
import ResponseTracker.ViewControllers.AppScreens
import ResponseTracker.ViewControllers.AppStores
import ResponseTracker.ViewControllers.AppBook
import ResponseTracker.ViewControllers.AppVisits
import ResponseTracker.ViewControllers.AppOrder
